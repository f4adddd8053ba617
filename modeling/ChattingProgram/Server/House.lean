import ChattingProgram.Server.Ledger

namespace ChattingProgram.Server

open ChattingProgram.Machine

/-! # All rooms together

The rooms, their rows and `_rooms` by themselves.  A process that makes a room
owns its row until the `Room` object is there; from then on the object does, and
every process that refers to the object is at a stage of its books.
-/

/-- What a process has to do with rooms. -/
inductive Activity where
  | outside
  | naming (roomName : String)
  | building (roomId : Nat)
  | proposing (roomId room : Nat) (state : Int)
  | on (room : Nat) (known : Option Nat) (stage : Stage)
deriving Repr, DecidableEq

namespace Activity

def place : Activity → Option (Nat × Stage)
  | .proposing _ room _ => some (room, .visiting)
  | .on room _ stage => some (room, stage)
  | .outside | .naming _ | .building _ => none

/-- The id that a process knows its room by. -/
def known : Activity → Option Nat
  | .proposing roomId _ _ => some roomId
  | .on _ known _ => known
  | .outside | .naming _ | .building _ => none

/-- The row that a process is going to make a room for. -/
def builds (collate : String → String) (rows : List RoomRow) : Activity → Option Nat
  | .naming roomName =>
      (rows.find? fun row => collate row.roomName = collate roomName).map RoomRow.roomId
  | .building roomId => some roomId
  | .outside | .proposing .. | .on .. => none

structure Fits (rooms : List Room) (activity : Activity) : Prop where
  present : ∀ {room : Nat} {stage : Stage}, activity.place = some (room, stage) →
    ∃ current, rooms[room]? = some current ∧ ∀ roomId, activity.known = some roomId →
    current.roomId = roomId
  ready : ∀ {roomId room : Nat} {state : Int}, activity = .proposing roomId room state →
    state ≠ destruction

end Activity

def RowEffect.apply (roomId : Nat) : RowEffect → List RoomRow → List RoomRow
  | .same, rows => rows
  | .add difference, rows => rows.map fun row =>
      if row.roomId = roomId then { row with userCount := row.userCount + difference } else row
  | .delete, rows => rows.filter fun row => ¬ (row.roomId = roomId ∧ row.userCount ≤ 0)

def ListEffect.apply (roomId room : Nat) :
    ListEffect → (AList fun _ : Nat => Nat) → AList fun _ : Nat => Nat
  | .same, listed => listed
  | .insert, listed => listed.insert roomId room
  | .erase, listed => listed.erase roomId

structure House where
  rows : List RoomRow
  nextRoomId : Nat
  rooms : List Room
  listed : AList fun _ : Nat => Nat
  /-- `_room` of every session. -/
  seats : List (Option Nat)
  activities : List Activity

namespace House

/-- A session is seated by its own process, after the room is constructed. -/
def Seating (stage : Stage) (room : Nat) (before after : List (Option Nat)) : Prop :=
  ∀ other, some other ∈ after → some other ∈ before ∨
    (other = room ∧ (stage = .constructed ∨ stage = .joined))

inductive Move (collate : String → String) : House → House → Prop where
  | stutter (house : House) : Move collate house house
  | connect (house : House) : Move collate house { house with seats := house.seats ++ [none] }
  | spawn (house : House) : Move collate house { house with
    activities := house.activities ++ [.outside] }
  | insert (house : House) {index : Nat} {roomName : String} :
      house.activities[index]? = some .outside →
      (∀ row ∈ house.rows, collate row.roomName ≠ collate roomName) →
      Move collate house { house with
        rows := house.rows ++ [⟨house.nextRoomId, roomName, 1⟩]
        nextRoomId := house.nextRoomId + 1
        activities := house.activities.set index (.naming roomName) }
  | select (house : House) {index : Nat} {roomName : String} {roomId : Nat} :
      house.activities[index]? = some (.naming roomName) →
      (Activity.naming roomName).builds collate house.rows = some roomId →
      Move collate house { house with activities := house.activities.set index (.building roomId) }
  | make (house : House) {index roomId session : Nat} {id : String} :
      house.activities[index]? = some (.building roomId) →
      Move collate house { house with
        rooms := house.rooms ++ [⟨roomId, AList.insert id session ∅, 0, false⟩]
        activities := house.activities.set index (.on house.rooms.length none .constructing) }
  | find (house : House) {index roomId room : Nat} {known : Option Nat} :
      house.activities[index]? = some .outside → house.listed.lookup roomId = some room →
      (∀ target, known = some target → target = roomId) →
      Move collate house { house with
        activities := house.activities.set index (.on room known .visiting) }
  | rise (house : House) {index room : Nat} :
      house.activities[index]? = some .outside → some room ∈ house.seats →
      Move collate house { house with
        activities := house.activities.set index (.on room none .visiting) }
  | act (house : House) {index room : Nat} {source target : Activity} {stage : Stage}
      {current next : Room}
      {effect : RowEffect} {listing : ListEffect} {seats : List (Option Nat)} :
      house.activities[index]? = some source → source.place = some (room, stage) →
      house.rooms[room]? = some current →
      Act stage (target.place.map Prod.snd) current next effect listing →
      (∀ other, target.place = some other → other.1 = room) →
      (∀ roomId, target.known = some roomId → source.known = some roomId) →
      (∀ roomId room state, target = .proposing roomId room state → state ≠ destruction) →
      (∀ rows, target.builds collate rows = none) →
      (listing = .erase → house.listed.lookup current.roomId = some room) →
      Seating stage room house.seats seats →
      Move collate house { house with
        rows := effect.apply current.roomId house.rows
        rooms := house.rooms.set room next
        listed := listing.apply current.roomId room house.listed
        seats := seats
        activities := house.activities.set index target }

/-! ## Consistency -/

def staff (activities : List Activity) (room : Nat) (stage : Stage) : Nat :=
  total (fun activity => if activity.place = some (room, stage) then 1 else 0) activities

def builders (collate : String → String) (rows : List RoomRow) (activities : List Activity)
    (roomId : Nat) : Nat :=
  total (fun activity => if activity.builds collate rows = some roomId then 1 else 0) activities

def houses (rooms : List Room) (roomId : Nat) : Nat :=
  total (fun room => if room.roomId = roomId then 1 else 0) rooms

def userCount (rows : List RoomRow) (roomId : Nat) : Option Int :=
  (rows.find? fun row => row.roomId = roomId).map RoomRow.userCount

def isListed (listed : AList fun _ : Nat => Nat) (roomId room : Nat) : Bool :=
  listed.lookup roomId = some room

def books (house : House) (room : Nat) (current : Room) : Ledger :=
  .of current (userCount house.rows current.roomId) (isListed house.listed current.roomId room)
    (staff house.activities room)

/-- Every row has one owner: the process that inserted it, or its `Room`. -/
structure Registry (collate : String → String) (house : House) : Prop where
  distinct : (house.rows.map RoomRow.roomId).Nodup
  single : ∀ roomId, builders collate house.rows house.activities roomId +
    houses house.rooms roomId ≤ 1
  owned : ∀ row ∈ house.rows,
    builders collate house.rows house.activities row.roomId + houses house.rooms row.roomId = 1
  built : ∀ activity ∈ house.activities, ∀ roomId,
    activity.builds collate house.rows = some roomId →
    ∃ row ∈ house.rows, row.roomId = roomId ∧ row.userCount = 1
  named : ∀ roomName, .naming roomName ∈ house.activities →
    ∃ row ∈ house.rows, collate row.roomName = collate roomName
  rowsBelow : ∀ row ∈ house.rows, row.roomId < house.nextRoomId
  roomsBelow : ∀ room ∈ house.rooms, room.roomId < house.nextRoomId

structure Consistent (collate : String → String) (house : House) : Prop where
  registry : Registry collate house
  fits : ∀ activity ∈ house.activities, activity.Fits house.rooms
  listed : ∀ {roomId room : Nat}, house.listed.lookup roomId = some room →
    ∃ current, house.rooms[room]? = some current ∧ current.roomId = roomId
  seated : ∀ {room : Nat}, some room ∈ house.seats →
    room < house.rooms.length ∧ staff house.activities room .constructing = 0
  sound : ∀ {room : Nat} {current : Room}, house.rooms[room]? = some current →
    (books house room current).Sound

section Consistent

variable {collate : String → String} {house : House} {activities : List Activity}
  {rows : List RoomRow} {index room : Nat} {source target : Activity}

theorem staff_set (target : Activity) (room : Nat) (stage : Stage)
    (found : activities[index]? = some source) :
    staff (activities.set index target) room stage +
      (if source.place = some (room, stage) then 1 else 0) =
      staff activities room stage + (if target.place = some (room, stage) then 1 else 0) :=
  total_set _ target found

theorem staff_set_elsewhere (found : activities[index]? = some source)
    (leaves : ∀ stage, source.place ≠ some (room, stage))
    (enters : ∀ stage, target.place ≠ some (room, stage)) :
    staff (activities.set index target) room = staff activities room := by
  funext stage
  have moved := staff_set target room stage found
  rw [if_neg (leaves stage), if_neg (enters stage)] at moved
  exact moved

theorem builders_set_same (found : activities[index]? = some source)
    (same : target.builds collate rows = source.builds collate rows) (roomId : Nat) :
    builders collate rows (activities.set index target) roomId =
      builders collate rows activities roomId := by
  refine total_set_same _ found ?_
  rw [same]

theorem userCount_of_mem {rows : List RoomRow} (distinct : (rows.map RoomRow.roomId).Nodup)
    (member : row ∈ rows) : userCount rows row.roomId = some row.userCount := by
  induction rows with
  | nil => contradiction
  | cons head tail ih =>
      simp only [List.map_cons, List.nodup_cons, List.mem_map, not_exists, not_and] at distinct
      simp only [userCount, List.find?_cons]
      rcases List.mem_cons.mp member with rfl | later
      · simp
      · have other : head.roomId ≠ row.roomId := fun same => distinct.1 row later same.symm
        simp only [other, decide_false]
        exact ih distinct.2 later

theorem exists_of_userCount (counted : userCount rows roomId = some count) :
    ∃ row ∈ rows, row.roomId = roomId ∧ row.userCount = count := by
  obtain ⟨row, found, rfl⟩ := Option.map_eq_some_iff.mp counted
  exact ⟨row, List.mem_of_find?_eq_some found, by simpa using List.find?_some found, rfl⟩

theorem userCount_eq_none : userCount rows roomId = none ↔ ∀ row ∈ rows, row.roomId ≠ roomId := by
  simp [userCount]

theorem mem_apply {effect : RowEffect} (member : row ∈ effect.apply roomId rows) :
    ∃ prior ∈ rows, prior.roomId = row.roomId ∧ prior.roomName = row.roomName := by
  cases effect with
  | same => exact ⟨row, member, rfl, rfl⟩
  | add difference =>
      obtain ⟨prior, priorMember, rfl⟩ := List.mem_map.mp member
      refine ⟨prior, priorMember, ?_⟩
      split <;> exact ⟨rfl, rfl⟩
  | delete => exact ⟨row, List.mem_of_mem_filter member, rfl, rfl⟩

theorem mem_apply_other {effect : RowEffect} (member : row ∈ rows) (other : row.roomId ≠ roomId) :
    row ∈ effect.apply roomId rows := by
  cases effect with
  | same => exact member
  | add difference => exact List.mem_map.mpr ⟨row, member, if_neg other⟩
  | delete => exact List.mem_filter.mpr ⟨member, by simp [other]⟩

theorem apply_distinct (effect : RowEffect) (roomId : Nat) {rows : List RoomRow}
    (distinct : (rows.map RoomRow.roomId).Nodup) :
    ((effect.apply roomId rows).map RoomRow.roomId).Nodup := by
  cases effect with
  | same => exact distinct
  | add difference =>
      have same : (RowEffect.apply roomId (.add difference) rows).map RoomRow.roomId =
          rows.map RoomRow.roomId := by
        simp only [RowEffect.apply, List.map_map]
        refine List.map_congr_left fun row _ => ?_
        simp only [Function.comp_apply]
        split <;> rfl
      rw [same]
      exact distinct
  | delete => exact distinct.sublist (List.Sublist.map _ List.filter_sublist)

theorem userCount_apply_other (effect : RowEffect) (different : other ≠ roomId)
    (rows : List RoomRow) : userCount (effect.apply roomId rows) other = userCount rows other := by
  cases effect with
  | same => rfl
  | add difference =>
      simp only [userCount, RowEffect.apply]
      induction rows with
      | nil => rfl
      | cons head tail ih =>
          by_cases here : head.roomId = other
          · simp [here, different]
          · by_cases target : head.roomId = roomId <;> simp_all
  | delete =>
      simp only [userCount, RowEffect.apply, List.find?_filter]
      congr 2
      funext row
      by_cases here : row.roomId = other <;> simp [here, different]

theorem userCount_apply_self (effect : RowEffect) (roomId : Nat) {rows : List RoomRow}
    (distinct : (rows.map RoomRow.roomId).Nodup) :
    userCount (effect.apply roomId rows) roomId = effect.row (userCount rows roomId) := by
  cases effect with
  | same => rfl
  | add difference =>
      simp only [userCount, RowEffect.apply, RowEffect.row]
      induction rows with
      | nil => rfl
      | cons head tail ih =>
          simp only [List.map_cons, List.nodup_cons] at distinct
          by_cases here : head.roomId = roomId
          · simp [here]
          · simp only [List.map_cons, List.find?_cons, here, if_false, decide_false]
            exact ih distinct.2
  | delete =>
      have remaining := apply_distinct .delete roomId distinct
      cases counted : userCount rows roomId with
      | none =>
          refine userCount_eq_none.mpr ?_
          intro row member
          exact userCount_eq_none.mp counted row (List.mem_of_mem_filter member)
      | some count =>
          obtain ⟨row, member, rfl, rfl⟩ := exists_of_userCount counted
          by_cases positive : 0 < row.userCount
          · have stays : row ∈ RowEffect.delete.apply row.roomId rows :=
              List.mem_filter.mpr ⟨member, by simp [positive]⟩
            rw [userCount_of_mem remaining stays]
            simp [RowEffect.row, Option.filter, positive]
          · have gone : userCount (RowEffect.delete.apply row.roomId rows) row.roomId = none := by
              refine userCount_eq_none.mpr ?_
              intro other stays same
              obtain ⟨otherMember, keeps⟩ := List.mem_filter.mp stays
              have counts := userCount_of_mem distinct otherMember
              rw [same, counted] at counts
              simp only [Option.some.injEq] at counts
              simp [same, ← counts] at keeps
              omega
            rw [gone]
            simp [RowEffect.row, Option.filter, positive]

theorem Registry.id_unique (registry : Registry collate house) {second : Nat}
    (foundLeft : house.rooms[first]? = some left) (foundRight : house.rooms[second]? = some right)
    (same : left.roomId = right.roomId) : first = second := by
  by_contra different
  have both := weight_add_le_total
    (fun room : Room => if room.roomId = right.roomId then 1 else 0) foundLeft foundRight different
  have single := registry.single right.roomId
  simp only [same, if_true, houses] at both single
  omega

theorem Fits.of_grow {rooms : List Room} {activity : Activity} (fits : activity.Fits rooms)
    (kept : ∀ {room : Nat} {current : Room}, rooms[room]? = some current →
      ∃ next, grown[room]? = some next ∧ next.roomId = current.roomId) : activity.Fits grown := by
  constructor
  · intro room stage placed
    obtain ⟨current, found, known⟩ := fits.present placed
    obtain ⟨next, nextFound, same⟩ := kept found
    refine ⟨next, nextFound, ?_⟩
    intro roomId knows
    rw [same, known roomId knows]
  · exact fits.ready

theorem Consistent.connect (before : Consistent collate house) :
    Consistent collate { house with seats := house.seats ++ [none] } where
  registry := ⟨before.registry.distinct, before.registry.single, before.registry.owned,
    before.registry.built, before.registry.named, before.registry.rowsBelow,
    before.registry.roomsBelow⟩
  fits := before.fits
  listed := before.listed
  seated := by
    intro room seat
    rcases List.mem_append.mp seat with old | new
    · exact before.seated old
    · simp at new
  sound := before.sound

theorem staff_spawn (activities : List Activity) (room : Nat) :
    staff (activities ++ [.outside]) room = staff activities room := by
  funext stage
  simp [staff, Activity.place]

theorem builders_spawn (activities : List Activity) (roomId : Nat) :
    builders collate rows (activities ++ [.outside]) roomId =
      builders collate rows activities roomId := by
  simp [builders, Activity.builds]

theorem outside_fits (rooms : List Room) : Activity.outside.Fits rooms := by
  constructor <;> simp [Activity.place]

theorem Consistent.spawn (before : Consistent collate house) :
    Consistent collate { house with activities := house.activities ++ [.outside] } := by
  obtain ⟨⟨distinct, single, owned, built, named, rowsBelow, roomsBelow⟩, fits, listed, seated,
    sound⟩ := before
  have cases : ∀ {activity : Activity}, activity ∈ house.activities ++ [.outside] →
      activity ∈ house.activities ∨ activity = .outside := by
    intro activity member
    exact (List.mem_append.mp member).imp_right List.mem_singleton.mp
  refine ⟨⟨distinct, ?_, ?_, ?_, ?_, rowsBelow, roomsBelow⟩, ?_, listed, ?_, ?_⟩
  · intro roomId
    rw [builders_spawn]
    exact single roomId
  · intro row member
    rw [builders_spawn]
    exact owned row member
  · intro activity member roomId builds
    rcases cases member with old | rfl
    · exact built activity old roomId builds
    · contradiction
  · intro roomName member
    rcases cases member with old | new
    · exact named roomName old
    · contradiction
  · intro activity member
    rcases cases member with old | rfl
    · exact fits activity old
    · exact outside_fits _
  · intro room seat
    rw [staff_spawn]
    exact seated seat
  · intro room current found
    simp only [books, staff_spawn]
    exact sound found

/-- A move that changes only what one process has to do with rooms. -/
theorem Consistent.of_activity (before : Consistent collate house)
    (found : house.activities[index]? = some source)
    (same : target.builds collate house.rows = source.builds collate house.rows)
    (nameless : ∀ roomName, target ≠ .naming roomName) (fits : target.Fits house.rooms)
    (constructs : ∀ room, staff (house.activities.set index target) room .constructing ≤
      staff house.activities room .constructing)
    (sound : ∀ {room : Nat} {current : Room}, house.rooms[room]? = some current →
      (books house room current).Sound →
        (books { house with activities := house.activities.set index target } room current).Sound) :
    Consistent collate { house with activities := house.activities.set index target } := by
  have registry := before.registry
  refine ⟨⟨registry.distinct, ?_, ?_, ?_, ?_, registry.rowsBelow, registry.roomsBelow⟩, ?_,
    before.listed, ?_, ?_⟩
  · intro roomId
    rw [builders_set_same found same]
    exact registry.single roomId
  · intro row member
    rw [builders_set_same found same]
    exact registry.owned row member
  · intro activity member roomId builds
    rcases List.mem_or_eq_of_mem_set member with old | rfl
    · exact registry.built activity old roomId builds
    · exact registry.built source (List.mem_of_getElem? found) roomId (same ▸ builds)
  · intro roomName member
    rcases List.mem_or_eq_of_mem_set member with old | new
    · exact registry.named roomName old
    · exact absurd new.symm (nameless roomName)
  · intro activity member
    rcases List.mem_or_eq_of_mem_set member with old | rfl
    · exact before.fits activity old
    · exact fits
  · intro room seat
    have free := before.seated seat
    refine ⟨free.1, Nat.eq_zero_of_le_zero ?_⟩
    rw [← free.2]
    exact constructs room
  · intro room current placed
    exact sound placed (before.sound placed)

theorem Consistent.select (before : Consistent collate house)
    (found : house.activities[index]? = some (.naming roomName))
    (selected : (Activity.naming roomName).builds collate house.rows = some roomId) :
    Consistent collate { house with activities := house.activities.set index (.building roomId) } :=
      by
  have unmoved : ∀ room, staff (house.activities.set index (.building roomId)) room =
      staff house.activities room := by
    intro room
    exact staff_set_elsewhere found (by simp [Activity.place]) (by simp [Activity.place])
  refine before.of_activity found selected.symm (by simp) ?_ ?_ ?_
  · constructor <;> simp [Activity.place]
  · intro room
    rw [unmoved]
  · intro room current _ sound
    simp only [books, unmoved]
    exact sound

theorem Consistent.visit (before : Consistent collate house)
    (found : house.activities[index]? = some .outside)
    (object : house.rooms[room]? = some current)
    (knows : ∀ roomId, known = some roomId → current.roomId = roomId)
    (built : staff house.activities room .constructing = 0) :
    Consistent collate { house with
      activities := house.activities.set index (.on room known .visiting) } := by
  have moved := fun place stage => staff_set (.on room known .visiting) place stage found
  refine before.of_activity found rfl (by simp) ?_ ?_ ?_
  · constructor
    · intro place stage placed
      simp only [Activity.place, Option.some.injEq, Prod.mk.injEq] at placed
      exact ⟨current, placed.1 ▸ object, knows⟩
    · simp
  · intro place
    have same := moved place .constructing
    simp [Activity.place] at same
    omega
  · intro place other placed sound
    by_cases here : room = place
    · subst here
      refine Ledger.sound_visit ?_ built sound
      intro stage
      have shifted := moved room stage
      simpa [Activity.place] using shifted
    · simp only [books]
      rw [staff_set_elsewhere found (by simp [Activity.place]) (by simp [Activity.place, here])]
      exact sound

/-! ### A new room -/

theorem builds_append {activity : Activity} (row : RoomRow)
    (builds : activity.builds collate rows = some roomId) :
    activity.builds collate (rows ++ [row]) = some roomId := by
  cases activity with
  | naming roomName =>
      obtain ⟨found, isFound, rfl⟩ := Option.map_eq_some_iff.mp builds
      simp only [Activity.builds, List.find?_append, isFound, Option.some_or, Option.map_some]
  | building target => exact builds
  | outside | proposing | on => contradiction

theorem Registry.builds_cases (registry : Registry collate house)
    (member : activity ∈ house.activities) :
    (∃ roomId, activity.builds collate house.rows = some roomId) ∨
      ∀ rows, activity.builds collate rows = none := by
  cases activity with
  | naming roomName =>
      obtain ⟨row, rowMember, named⟩ := registry.named roomName member
      left
      have some : (house.rows.find? fun row => collate row.roomName = collate roomName).isSome := by
        rw [List.find?_isSome]
        exact ⟨row, rowMember, by simpa using named⟩
      obtain ⟨found, isFound⟩ := Option.isSome_iff_exists.mp some
      exact ⟨found.roomId, by simp only [Activity.builds, isFound, Option.map_some]⟩
  | building roomId => exact .inl ⟨roomId, rfl⟩
  | outside | proposing | on => exact .inr fun _ => rfl

theorem Registry.builders_eq_zero (registry : Registry collate house)
    (missing : ∀ row ∈ house.rows, row.roomId ≠ roomId) :
    builders collate house.rows house.activities roomId = 0 := by
  refine total_eq_zero.mpr ?_
  intro activity member
  split
  · rename_i builds
    obtain ⟨row, rowMember, same, _⟩ := registry.built activity member roomId builds
    exact absurd same (missing row rowMember)
  · rfl

theorem houses_eq_zero {rooms : List Room} (missing : ∀ room ∈ rooms, room.roomId ≠ roomId) :
    houses rooms roomId = 0 := by
  refine total_eq_zero.mpr ?_
  intro room member
  rw [if_neg (missing room member)]

/-- The builders after a process has changed what it builds, for rows in which
all the others still build the same. -/
theorem builders_set (target : Activity) (found : activities[index]? = some source)
    (same : ∀ activity ∈ activities, activity.builds collate grown = activity.builds collate rows)
    (roomId : Nat) :
    builders collate grown (activities.set index target) roomId +
        (if source.builds collate rows = some roomId then 1 else 0) =
      builders collate rows activities roomId +
        (if target.builds collate grown = some roomId then 1 else 0) := by
  have moved := total_set
    (fun activity : Activity => if activity.builds collate grown = some roomId then 1 else 0)
    target found
  have kept : builders collate grown activities roomId =
      builders collate rows activities roomId := by
    refine total_congr ?_
    intro activity member
    rw [same activity member]
  rw [same source (List.mem_of_getElem? found)] at moved
  rw [← kept]
  exact moved

theorem Consistent.insert (before : Consistent collate house)
    (found : house.activities[index]? = some .outside)
    (unused : ∀ row ∈ house.rows, collate row.roomName ≠ collate roomName) :
    Consistent collate { house with
      rows := house.rows ++ [⟨house.nextRoomId, roomName, 1⟩]
      nextRoomId := house.nextRoomId + 1
      activities := house.activities.set index (.naming roomName) } := by
  obtain ⟨registry, fits, listed, seated, sound⟩ := before
  generalize added : (⟨house.nextRoomId, roomName, 1⟩ : RoomRow) = row
  have newId : row.roomId = house.nextRoomId := by rw [← added]
  have same : ∀ activity ∈ house.activities, activity.builds collate (house.rows ++ [row]) =
      activity.builds collate house.rows := by
    intro activity member
    rcases registry.builds_cases member with ⟨roomId, builds⟩ | never
    · rw [builds_append row builds, builds]
    · rw [never, never]
  have builds : (Activity.naming roomName).builds collate (house.rows ++ [row]) =
      some house.nextRoomId := by
    have missed : (house.rows.find? fun row => collate row.roomName = collate roomName) = none := by
      simpa using unused
    simp [Activity.builds, List.find?_append, missed, ← added]
  have counted : ∀ roomId, builders collate (house.rows ++ [row])
      (house.activities.set index (.naming roomName)) roomId =
        builders collate house.rows house.activities roomId +
          if house.nextRoomId = roomId then 1 else 0 := by
    intro roomId
    have moved := builders_set (.naming roomName) found same roomId
    rw [builds] at moved
    simpa only [Activity.builds, Option.some.injEq, reduceCtorEq, if_false,
    Nat.add_zero] using moved
  have newcomer : builders collate house.rows house.activities house.nextRoomId + houses house.rooms
      house.nextRoomId = 0 := by
    rw [registry.builders_eq_zero fun row member => (registry.rowsBelow row member).ne,
      houses_eq_zero fun room member => (registry.roomsBelow room member).ne]
  have unmoved : ∀ room, staff (house.activities.set index (.naming roomName)) room =
      staff house.activities room := by
    intro room
    exact staff_set_elsewhere found (by simp [Activity.place]) (by simp [Activity.place])
  refine ⟨⟨?_, ?_, ?_, ?_, ?_, ?_, ?_⟩, ?_, listed, ?_, ?_⟩
  · rw [List.map_append, List.nodup_append]
    refine ⟨registry.distinct, by simp, ?_⟩
    intro roomId member other isNew same
    obtain ⟨old, oldMember, rfl⟩ := List.mem_map.mp member
    simp only [List.map_cons, List.map_nil, List.mem_singleton] at isNew
    have below := registry.rowsBelow old oldMember
    omega
  · intro roomId
    rw [counted]
    have single := registry.single roomId
    split
    · rename_i here
      subst here
      change _ + houses house.rooms _ ≤ 1
      omega
    · exact single
  · intro other member
    rw [counted]
    rcases List.mem_append.mp member with old | new
    · have owned := registry.owned other old
      have below := registry.rowsBelow other old
      rw [if_neg (by omega)]
      exact owned
    · rw [List.mem_singleton.mp new, newId, if_pos rfl]
      change _ + houses house.rooms _ = 1
      omega
  · intro activity member roomId building
    rcases List.mem_or_eq_of_mem_set member with old | rfl
    · rw [same activity old] at building
      obtain ⟨other, otherMember, facts⟩ := registry.built activity old roomId building
      exact ⟨other, List.mem_append_left _ otherMember, facts⟩
    · rw [builds] at building
      cases building
      exact ⟨row, by simp, newId, by rw [← added]⟩
  · intro other member
    rcases List.mem_or_eq_of_mem_set member with old | new
    · obtain ⟨named, namedMember, key⟩ := registry.named other old
      exact ⟨named, List.mem_append_left _ namedMember, key⟩
    · cases new
      exact ⟨row, by simp, by rw [← added]⟩
  · intro other member
    rcases List.mem_append.mp member with old | new
    · exact Nat.lt_succ_of_lt (registry.rowsBelow other old)
    · rw [List.mem_singleton.mp new, newId]
      exact Nat.lt_succ_self _
  · intro room member
    exact Nat.lt_succ_of_lt (registry.roomsBelow room member)
  · intro activity member
    rcases List.mem_or_eq_of_mem_set member with old | rfl
    · exact fits activity old
    · constructor <;> simp [Activity.place]
  · intro room seat
    rw [unmoved]
    exact seated seat
  · intro room current placed
    have below := registry.roomsBelow current (List.mem_of_getElem? placed)
    have kept : userCount (house.rows ++ [row]) current.roomId =
        userCount house.rows current.roomId := by
      have other : row.roomId ≠ current.roomId := by omega
      simp [userCount, List.find?_append, other]
    simp only [books, unmoved, kept]
    exact sound placed

theorem staff_eq_zero {rooms : List Room} (fits : ∀ activity ∈ activities, activity.Fits rooms)
    (absent : rooms[room]? = none) (stage : Stage) : staff activities room stage = 0 := by
  refine total_eq_zero.mpr ?_
  intro activity member
  split
  · rename_i placed
    obtain ⟨current, found, _⟩ := (fits activity member).present placed
    rw [absent] at found
    contradiction
  · rfl

theorem getElem?_append_kept {rooms : List Room} (added : Room)
    (found : rooms[room]? = some current) : (rooms ++ [added])[room]? = some current := by
  rw [List.getElem?_append_left (List.getElem?_eq_some_iff.mp found).1, found]

theorem Consistent.make (before : Consistent collate house) {roomId : Nat} {id : String}
    (found : house.activities[index]? = some (.building roomId)) :
    Consistent collate { house with
      rooms := house.rooms ++ [⟨roomId, AList.insert id session ∅, 0, false⟩]
      activities := house.activities.set index (.on house.rooms.length none .constructing) } := by
  obtain ⟨registry, fits, listed, seated, sound⟩ := before
  obtain ⟨row, rowMember, rowId, rowCount⟩ :=
    registry.built _ (List.mem_of_getElem? found) roomId rfl
  generalize added : (⟨roomId, AList.insert id session ∅, 0, false⟩ : Room) = room
  have newId : room.roomId = roomId := by rw [← added]
  have absent : house.rooms[house.rooms.length]? = none := by simp
  have counted : ∀ other, builders collate house.rows
      (house.activities.set index (.on house.rooms.length none .constructing)) other +
        houses (house.rooms ++ [room]) other =
          builders collate house.rows house.activities other + houses house.rooms other := by
    intro other
    have same : ∀ activity ∈ house.activities,
        activity.builds collate house.rows = activity.builds collate house.rows := fun _ _ => rfl
    have moved := builders_set (.on house.rooms.length none .constructing) found same other
    have grown : houses (house.rooms ++ [room]) other =
        houses house.rooms other + if roomId = other then 1 else 0 := by
      simp [houses, newId]
    simp only [Activity.builds, Option.some.injEq, reduceCtorEq, if_false] at moved
    omega
  have moved := fun place stage => staff_set (.on house.rooms.length none .constructing)
    place stage found
  have unmoved : ∀ {place : Nat}, place < house.rooms.length →
      staff (house.activities.set index (.on house.rooms.length none .constructing)) place =
        staff house.activities place := by
    intro place below
    exact staff_set_elsewhere found (by simp [Activity.place]) (by simp [Activity.place, below.ne'])
  have kept : ∀ {place : Nat} {current : Room}, house.rooms[place]? = some current →
      ∃ next, (house.rooms ++ [room])[place]? = some next ∧ next.roomId = current.roomId := by
    intro place current placed
    exact ⟨current, getElem?_append_kept room placed, rfl⟩
  refine ⟨⟨registry.distinct, ?_, ?_, ?_, ?_, registry.rowsBelow, ?_⟩, ?_, ?_, ?_, ?_⟩
  · intro other
    exact (counted other).trans_le (registry.single other)
  · intro other member
    exact (counted other.roomId).trans (registry.owned other member)
  · intro activity member other builds
    rcases List.mem_or_eq_of_mem_set member with old | rfl
    · exact registry.built activity old other builds
    · contradiction
  · intro roomName member
    rcases List.mem_or_eq_of_mem_set member with old | new
    · exact registry.named roomName old
    · contradiction
  · intro other member
    rcases List.mem_append.mp member with old | new
    · exact registry.roomsBelow other old
    · rw [List.mem_singleton.mp new, newId, ← rowId]
      exact registry.rowsBelow row rowMember
  · intro activity member
    rcases List.mem_or_eq_of_mem_set member with old | rfl
    · exact Fits.of_grow (fits activity old) kept
    · constructor
      · intro place stage placed
        simp only [Activity.place, Option.some.injEq, Prod.mk.injEq] at placed
        exact ⟨room, by simp [← placed.1], by simp [Activity.known]⟩
      · simp
  · intro other place found
    obtain ⟨current, placed, same⟩ := listed found
    obtain ⟨next, nextPlaced, nextSame⟩ := kept placed
    exact ⟨next, nextPlaced, nextSame.trans same⟩
  · intro place seat
    have free := seated seat
    rw [unmoved free.1, List.length_append]
    exact ⟨Nat.lt_of_lt_of_le free.1 (Nat.le_add_right _ _), free.2⟩
  · intro place current placed
    rcases getElem?_concat_cases placed with old | ⟨rfl, rfl⟩
    · simp only [books, unmoved (List.getElem?_eq_some_iff.mp old).1]
      exact sound old
    · have count : userCount house.rows current.roomId = some 1 := by
        rw [newId, ← rowId, userCount_of_mem registry.distinct rowMember, rowCount]
      have unlisted : house.listed.lookup current.roomId ≠ some house.rooms.length := by
        intro lists
        obtain ⟨other, otherFound, _⟩ := listed lists
        rw [absent] at otherFound
        contradiction
      simp only [books, isListed, count, unlisted, decide_false]
      rw [← added]
      refine Ledger.sound_make ?_ ?_
      · have made := moved house.rooms.length .constructing
        rw [staff_eq_zero fits absent] at made
        simpa [Activity.place] using made
      · intro stage other
        have made := moved house.rooms.length stage
        rw [staff_eq_zero fits absent] at made
        simpa [Activity.place, other.symm] using made

/-! ### A room that is there -/

theorem Act.roomId_eq (acts : Act stage goal current next effect listing) :
    next.roomId = current.roomId := by
  cases acts <;> rfl

theorem Act.goal_ne_constructing (acts : Act stage goal current next effect listing) :
    goal ≠ some .constructing := by
  cases acts <;> simp

theorem builds_apply {activity : Activity} (effect : RowEffect)
    (builds : activity.builds collate rows = some builtId) (other : builtId ≠ roomId) :
    activity.builds collate (effect.apply roomId rows) = some builtId := by
  cases activity with
  | naming roomName =>
      obtain ⟨row, found, rfl⟩ := Option.map_eq_some_iff.mp builds
      cases effect with
      | same => exact builds
      | add difference =>
          have named : ((fun row : RoomRow => decide (collate row.roomName = collate roomName)) ∘
              fun row =>
              if row.roomId = roomId then { row with
                userCount := row.userCount + difference } else row) =
                fun row => decide (collate row.roomName = collate roomName) := by
            funext row
            simp only [Function.comp_apply]
            split <;> rfl
          simp only [Activity.builds, RowEffect.apply, List.find?_map, named, found,
            Option.map_some, other, if_false]
      | delete =>
          obtain ⟨matched, front, back, split, unmatched⟩ := List.find?_eq_some_iff_append.mp found
          have first : (RowEffect.delete.apply roomId rows).find?
              (fun row => collate row.roomName = collate roomName) = some row := by
            simp only [RowEffect.apply, List.find?_filter]
            refine List.find?_eq_some_iff_append.mpr ⟨by simp_all, front, back, split, ?_⟩
            intro early member
            have miss := unmatched early member
            simp_all
          simp only [Activity.builds, first, Option.map_some]
  | building target => exact builds
  | outside | proposing | on => contradiction

theorem builds_eq_none_of_place {activity : Activity} (place : activity.place = some placed)
    (rows : List RoomRow) : activity.builds collate rows = none := by
  cases activity with
  | naming | building | outside => contradiction
  | proposing | on => rfl

theorem listed_apply_self (listing : ListEffect) (listed : AList fun _ : Nat => Nat)
    (roomId room : Nat) :
    isListed (listing.apply roomId room listed) roomId room =
      listing.listed (isListed listed roomId room) := by
  cases listing with
  | same => rfl
  | insert => simp [isListed, ListEffect.apply, ListEffect.listed]
  | erase => simp [isListed, ListEffect.apply, ListEffect.listed]

theorem listed_apply_other (listing : ListEffect) (listed : AList fun _ : Nat => Nat) (room : Nat)
    (different : other ≠ roomId) :
    (listing.apply roomId room listed).lookup other = listed.lookup other := by
  cases listing with
  | same => rfl
  | insert => exact AList.lookup_insert_ne different
  | erase => exact AList.lookup_erase_ne different

section Act

variable {stage : Stage} {current next : Room} {effect : RowEffect} {listing : ListEffect}
  (before : Consistent collate house) (found : house.activities[index]? = some source)
  (placed : source.place = some (room, stage)) (object : house.rooms[room]? = some current)
  (acts : Act stage (target.place.map Prod.snd) current next effect listing)

include before object

theorem builder_elsewhere (member : activity ∈ house.activities)
    (builds : activity.builds collate house.rows = some roomId) : roomId ≠ current.roomId := by
  rintro rfl
  have single := before.registry.single current.roomId
  have home := weight_le_total (fun other : Room => if other.roomId = current.roomId then 1 else 0)
    (List.mem_of_getElem? object)
  have builder := weight_le_total
    (fun other : Activity => if other.builds collate house.rows = some current.roomId then 1 else 0)
    member
  simp only [builds, if_true, builders, houses] at single home builder
  omega

theorem builds_act (effect : RowEffect) (member : activity ∈ house.activities) :
    activity.builds collate (effect.apply current.roomId house.rows) =
      activity.builds collate house.rows := by
  rcases before.registry.builds_cases member with ⟨roomId, builds⟩ | never
  · rw [builds_apply effect builds (builder_elsewhere before object member builds), builds]
  · rw [never, never]

include found placed acts

theorem Registry.act (buildless : ∀ rows, target.builds collate rows = none) :
    Registry collate { house with
      rows := effect.apply current.roomId house.rows
      rooms := house.rooms.set room next
      activities := house.activities.set index target } := by
  have registry := before.registry
  have sourceless : source.builds collate house.rows = none :=
    builds_eq_none_of_place placed house.rows
  have counted : ∀ roomId, builders collate (effect.apply current.roomId house.rows)
      (house.activities.set index target) roomId + houses (house.rooms.set room next) roomId =
        builders collate house.rows house.activities roomId + houses house.rooms roomId := by
    intro roomId
    have moved := builders_set target found (fun _ member => builds_act before object effect member) roomId
    have kept : houses (house.rooms.set room next) roomId = houses house.rooms roomId := by
      refine total_set_same _ object ?_
      rw [Act.roomId_eq acts]
    rw [sourceless, buildless] at moved
    simp only [reduceCtorEq, if_false, Nat.add_zero] at moved
    rw [moved, kept]
  refine ⟨apply_distinct effect current.roomId registry.distinct, ?_, ?_, ?_, ?_, ?_, ?_⟩
  · intro roomId
    exact (counted roomId).trans_le (registry.single roomId)
  · intro row member
    obtain ⟨prior, priorMember, same, _⟩ := mem_apply member
    rw [← same]
    exact (counted prior.roomId).trans (registry.owned prior priorMember)
  · intro activity member roomId builds
    rcases List.mem_or_eq_of_mem_set member with old | rfl
    · rw [builds_act before object effect old] at builds
      obtain ⟨row, rowMember, rfl, count⟩ := registry.built activity old roomId builds
      exact ⟨row, mem_apply_other rowMember (builder_elsewhere before object old builds), rfl,
        count⟩
    · rw [buildless] at builds
      contradiction
  · intro roomName member
    rcases List.mem_or_eq_of_mem_set member with old | rfl
    · rcases registry.builds_cases old with ⟨roomId, builds⟩ | never
      · rw [← builds_act before object effect old] at builds
        obtain ⟨row, isFound, _⟩ := Option.map_eq_some_iff.mp builds
        exact ⟨row, List.mem_of_find?_eq_some isFound, by simpa using List.find?_some isFound⟩
      · have impossible := never [⟨0, roomName, 0⟩]
        simp [Activity.builds] at impossible
    · have impossible := buildless [⟨0, roomName, 0⟩]
      simp [Activity.builds] at impossible
  · intro row member
    obtain ⟨prior, priorMember, same, _⟩ := mem_apply member
    rw [← same]
    exact registry.rowsBelow prior priorMember
  · intro other member
    rcases List.mem_or_eq_of_mem_set member with old | rfl
    · exact registry.roomsBelow other old
    · rw [Act.roomId_eq acts]
      exact registry.roomsBelow current (List.mem_of_getElem? object)

omit before object acts in
theorem shifts_act (stays : ∀ other, target.place = some other → other.1 = room) :
    Ledger.Shifts (some stage) (target.place.map Prod.snd) (staff house.activities room)
      (staff (house.activities.set index target) room) := by
  intro other
  have moved := staff_set target room other found
  have leaves : (source.place = some (room, other)) ↔ some stage = some other := by
    rw [placed]
    simp
  have enters : (target.place = some (room, other)) ↔ target.place.map Prod.snd = some other := by
    constructor
    · intro enters
      rw [enters]
      rfl
    · intro goal
      obtain ⟨⟨place, reached⟩, isPlaced, rfl⟩ := Option.map_eq_some_iff.mp goal
      rw [isPlaced, show place = room from stays _ isPlaced]
  simpa only [leaves, enters] using moved

theorem sound_act_self (stays : ∀ other, target.place = some other → other.1 = room)
    (unlists : listing = .erase → house.listed.lookup current.roomId = some room)
    {seats : List (Option Nat)} :
    (books { house with
      rows := effect.apply current.roomId house.rows
      rooms := house.rooms.set room next
      listed := listing.apply current.roomId room house.listed
      seats := seats
      activities := house.activities.set index target } room next).Sound := by
  simp only [books, Act.roomId_eq acts, userCount_apply_self effect current.roomId
    before.registry.distinct, listed_apply_self]
  exact Ledger.sound_act acts (shifts_act found placed stays) (before.sound object)
    (fun erases => decide_eq_true (unlists erases))

omit acts in
theorem sound_act_other (stays : ∀ other, target.place = some other → other.1 = room)
    {other : Room} (otherObject : house.rooms[place]? = some other) (different : room ≠ place)
    {seats : List (Option Nat)} :
    (books { house with
      rows := effect.apply current.roomId house.rows
      rooms := house.rooms.set room next
      listed := listing.apply current.roomId room house.listed
      seats := seats
      activities := house.activities.set index target } place other).Sound := by
  have otherId : other.roomId ≠ current.roomId := by
    intro same
    exact different (before.registry.id_unique otherObject object same).symm
  have unmoved : staff (house.activities.set index target) place =
      staff house.activities place := by
    refine staff_set_elsewhere found ?_ ?_
    · intro reached enters
      rw [placed] at enters
      simp only [Option.some.injEq, Prod.mk.injEq] at enters
      exact different enters.1
    · intro reached enters
      exact different (stays _ enters).symm
  simp only [books, isListed, userCount_apply_other effect otherId,
    listed_apply_other listing _ room otherId, unmoved]
  exact before.sound otherObject

theorem seated_act {seats : List (Option Nat)}
    (stays : ∀ other, target.place = some other → other.1 = room)
    (seating : Seating stage room house.seats seats) (seat : some place ∈ seats) :
    place < house.rooms.length ∧ staff (house.activities.set index target) place .constructing =
      0 := by
  have settled : place < house.rooms.length ∧ staff house.activities place .constructing = 0 := by
    rcases seating place seat with old | ⟨rfl, stages⟩
    · exact before.seated old
    · refine ⟨(List.getElem?_eq_some_iff.mp object).1, ?_⟩
      have present := weight_le_total
        (fun activity : Activity => if activity.place = some (place, stage) then 1 else 0)
        (List.mem_of_getElem? found)
      have sound := before.sound object
      have publisher := sound.publisher
      have alone := sound.alone
      simp only [placed, if_true] at present
      simp only [books, Ledger.of, Ledger.publishers, Ledger.arriving, Ledger.holders, staff] at publisher alone ⊢
      rcases stages with rfl | rfl <;> omega
  refine ⟨settled.1, ?_⟩
  have moved := staff_set target place .constructing found
  have constructs : target.place ≠ some (place, .constructing) := by
    intro enters
    exact Act.goal_ne_constructing acts (by rw [enters]; rfl)
  rw [if_neg constructs] at moved
  omega

theorem Consistent.act {seats : List (Option Nat)}
    (stays : ∀ other, target.place = some other → other.1 = room)
    (knows : ∀ roomId, target.known = some roomId → source.known = some roomId)
    (ready : ∀ roomId room state, target = .proposing roomId room state → state ≠ destruction)
    (buildless : ∀ rows, target.builds collate rows = none)
    (unlists : listing = .erase → house.listed.lookup current.roomId = some room)
    (seating : Seating stage room house.seats seats) :
    Consistent collate { house with
      rows := effect.apply current.roomId house.rows
      rooms := house.rooms.set room next
      listed := listing.apply current.roomId room house.listed
      seats := seats
      activities := house.activities.set index target } := by
  have registry := Registry.act before found placed object acts buildless
  have kept : ∀ {place : Nat} {prior : Room}, house.rooms[place]? = some prior →
      ∃ after, (house.rooms.set room next)[place]? = some after ∧ after.roomId = prior.roomId := by
    intro place prior isPlaced
    by_cases here : room = place
    · subst here
      cases object.symm.trans isPlaced
      exact ⟨next, List.getElem?_set_self (List.getElem?_eq_some_iff.mp object).1,
        Act.roomId_eq acts⟩
    · exact ⟨prior, (List.getElem?_set_ne here).trans isPlaced, rfl⟩
  refine ⟨⟨registry.distinct, registry.single, registry.owned, registry.built, registry.named,
    registry.rowsBelow, registry.roomsBelow⟩, ?_, ?_, ?_, ?_⟩
  · intro activity member
    rcases List.mem_or_eq_of_mem_set member with old | rfl
    · exact Fits.of_grow (before.fits activity old) kept
    · constructor
      · intro place reached enters
        obtain rfl : place = room := stays _ enters
        obtain ⟨prior, isPlaced, known⟩ :=
          (before.fits source (List.mem_of_getElem? found)).present placed
        obtain ⟨after, afterPlaced, same⟩ := kept isPlaced
        refine ⟨after, afterPlaced, ?_⟩
        intro roomId isKnown
        rw [same, known roomId (knows roomId isKnown)]
      · intro roomId place state proposes
        exact ready roomId place state proposes
  · intro roomId place lists
    by_cases here : roomId = current.roomId
    · subst here
      obtain ⟨after, afterPlaced, same⟩ := kept object
      cases listing with
      | same =>
          obtain ⟨prior, isPlaced, priorId⟩ := before.listed lists
          obtain ⟨after, afterPlaced, same⟩ := kept isPlaced
          exact ⟨after, afterPlaced, same.trans priorId⟩
      | insert =>
          simp only [ListEffect.apply, AList.lookup_insert, Option.some.injEq] at lists
          exact ⟨after, lists ▸ afterPlaced, same⟩
      | erase => simp [ListEffect.apply] at lists
    · rw [listed_apply_other listing _ room here] at lists
      obtain ⟨prior, isPlaced, priorId⟩ := before.listed lists
      obtain ⟨after, afterPlaced, same⟩ := kept isPlaced
      exact ⟨after, afterPlaced, same.trans priorId⟩
  · intro place seat
    rw [List.length_set]
    exact seated_act before found placed object acts stays seating seat
  · intro place after isPlaced
    rcases getElem?_set_cases isPlaced with ⟨rfl, rfl⟩ | ⟨different, old⟩
    · exact sound_act_self before found placed object acts stays unlists
    · exact sound_act_other before found placed object stays old different

end Act

theorem Move.consistent (move : Move collate house after) (before : Consistent collate house) :
    Consistent collate after := by
  cases move with
  | stutter => exact before
  | connect => exact before.connect
  | spawn => exact before.spawn
  | insert found unused => exact before.insert found unused
  | select found selected => exact before.select found selected
  | make found => exact before.make found
  | find found lists known =>
      obtain ⟨current, object, same⟩ := before.listed lists
      refine before.visit found object ?_ ?_
      · intro roomId knows
        rw [same, known roomId knows]
      · have publisher := (before.sound object).publisher
        have isListed : isListed house.listed current.roomId _ = true := same ▸ decide_eq_true lists
        simp only [books, Ledger.of, Ledger.publishers, isListed, if_true] at publisher
        omega
  | rise found seat =>
      have seated := before.seated seat
      exact before.visit found (List.getElem?_eq_getElem seated.1) (by simp) seated.2
  | act found placed object acts stays knows ready buildless unlists seating =>
      exact before.act found placed object acts stays knows ready buildless unlists seating

theorem Act.roomState_le {current : Room} (acts : Act stage goal current next effect listing) :
    next.roomState.natAbs ≤ current.roomState.natAbs + 1 := by
  cases acts with
  | destroy => exact Nat.le_add_left _ _
  | fetchAdd | enter | fetchSub => dsimp only; omega
  | _ => exact Nat.le_succ _

/-- A step raises or lowers `roomState` by at most 1. -/
theorem Move.roomState_le (move : Move collate house after)
    (within : ∀ room ∈ house.rooms, room.roomState.natAbs ≤ bound) :
    ∀ room ∈ after.rooms, room.roomState.natAbs ≤ bound + 1 := by
  have same : ∀ room ∈ house.rooms, room.roomState.natAbs ≤ bound + 1 :=
    fun room member => (within room member).trans (Nat.le_succ _)
  cases move with
  | make =>
      intro room member
      rcases List.mem_append.mp member with old | new
      · exact same room old
      · simp [List.mem_singleton.mp new]
  | act _ _ object acts =>
      intro room member
      rcases List.mem_or_eq_of_mem_set member with old | rfl
      · exact same room old
      · exact (Act.roomState_le acts).trans
          (Nat.succ_le_succ (within _ (List.mem_of_getElem? object)))
  | _ => exact same

/-- A room that is destroyed stays so. -/
theorem Move.remains {after : House} (move : Move collate house after)
    (before : Consistent collate house) (object : house.rooms[room]? = some current)
    (gone : current.roomState = destruction) :
    ∃ next, after.rooms[room]? = some next ∧ next.roomState = destruction := by
  cases move with
  | stutter | connect | spawn | insert | select | find | rise => exact ⟨current, object, gone⟩
  | make found => exact ⟨current, getElem?_append_kept _ object, gone⟩
  | @act index acted source target stage acting next effect listing seats found placed
      actedObject acts stays =>
      by_cases here : acted = room
      · subst here
        cases object.symm.trans actedObject
        refine ⟨next, List.getElem?_set_self (List.getElem?_eq_some_iff.mp object).1, ?_⟩
        exact Ledger.remains_act acts (shifts_act found placed stays) (before.sound object) gone
      · exact ⟨current, (List.getElem?_set_ne here).trans object, gone⟩

theorem Move.keeps_room {after : House} (move : Move collate house after)
    (object : house.rooms[room]? = some current) :
    ∃ next, after.rooms[room]? = some next ∧ next.roomId = current.roomId := by
  cases move with
  | stutter | connect | spawn | insert | select | find | rise => exact ⟨current, object, rfl⟩
  | make => exact ⟨current, getElem?_append_kept _ object, rfl⟩
  | @act _ acted _ _ _ _ next _ _ _ _ _ actedObject acts =>
      by_cases here : acted = room
      · subst here
        cases object.symm.trans actedObject
        exact ⟨next, List.getElem?_set_self (List.getElem?_eq_some_iff.mp object).1,
          Act.roomId_eq acts⟩
      · exact ⟨current, (List.getElem?_set_ne here).trans object, rfl⟩

/-- The row that a process makes a room for stays the same. -/
theorem Move.keeps_builds (move : Move collate house after) (before : Consistent collate house)
    (member : activity ∈ house.activities)
    (builds : activity.builds collate house.rows = some roomId) :
    activity.builds collate after.rows = some roomId := by
  cases move with
  | stutter | connect | spawn | select | make | find | rise => exact builds
  | insert => exact builds_append _ builds
  | act _ _ object => exact (builds_act before object _ member).trans builds

/-- `DELETE` finds the row of its room with no user left. -/
theorem Consistent.deletes (before : Consistent collate house)
    (found : house.activities[index]? = some source)
    (placed : source.place = some (room, .deleting)) (object : house.rooms[room]? = some current) :
    userCount house.rows current.roomId = some 0 := by
  have sound := before.sound object
  have present := weight_le_total
    (fun activity : Activity => if activity.place = some (room, .deleting) then 1 else 0)
    (List.mem_of_getElem? found)
  have kept := sound.kept
  have doomed := sound.doomed
  have lock := sound.holders_le
  simp only [placed, if_true] at present
  simp only [books, Ledger.of, Ledger.holders, staff] at kept doomed lock
  by_cases gone : current.roomState = destruction
  · exact doomed gone (by omega)
  · have none := kept gone
    omega

theorem consistent_empty : Consistent collate ⟨[], 1, [], ∅, [], []⟩ := by
  refine ⟨⟨?_, ?_, ?_, ?_, ?_, ?_, ?_⟩, ?_, ?_, ?_, ?_⟩ <;> simp [builders, houses]

end Consistent

end House

end ChattingProgram.Server
