import ChattingProgram.Server.State

namespace ChattingProgram.Server

open ChattingProgram.Machine

/-! # The books of a room

The counter `roomState`, the column `user_count` and the map `_users` of a room
are changed at different moments: a join counts itself first in `roomState` and
then in the row, a leave first in the row and then in `roomState`.  The books
keep the three together with the number of processes at every stage in between.
-/

/-- Where a process that refers to a `Room` stands. -/
inductive Stage where
  | constructing
  | constructed
  | listing
  | visiting
  | admitted
  | joined
  | inside
  | decremented
  | erased
  | deciding
  | deleting
  | unlisting
  | leaving
deriving Repr, DecidableEq

inductive RowEffect where
  | same
  | add (difference : Int)
  | delete

inductive ListEffect where
  | same
  | insert
  | erase

/-- What a process at a stage does to its room, and the stage that it goes to. -/
inductive Act : Stage → Option Stage → Room → Room → RowEffect → ListEffect → Prop where
  | fetchAdd (room : Room) : Act .constructing (some .constructed) room
      { room with roomState := room.roomState + 1 } .same .same
  | setRoom (room : Room) : Act .constructed (some .listing) room room .same .same
  | addRoom (room : Room) : Act .listing none room room .same .insert
  | look (room : Room) : Act .visiting (some .visiting) room room .same .same
  | refuse (room : Room) : Act .visiting none room room .same .same
  | enter (room : Room) : room.roomState ≠ destruction → Act .visiting (some .admitted) room
      { room with roomState := room.roomState + 1 } .same .same
  | joinRow (room : Room) : Act .admitted (some .joined) room room (.add 1) .same
  | addUser (room : Room) (id : String) (session : Nat) : Act .joined none room
      { room with users := room.users.insert id session } .same .same
  | miss (room : Room) : Act .joined none room room .same .same
  | lock (room : Room) : room.locked = false → Act .visiting (some .inside) room
      { room with locked := true } .same .same
  | leaveRow (room : Room) : Act .inside (some .decremented) room room (.add (-1)) .same
  | eraseUser (room : Room) (id : String) : id ∈ room.users → Act .decremented (some .erased) room
      { room with users := room.users.erase id } .same .same
  | fetchSub (room : Room) : Act .erased (some .deciding) room
      { room with roomState := room.roomState - 1 } .same .same
  | destroy (room : Room) : room.roomState = 0 → Act .deciding (some .deleting) room
      { room with roomState := destruction } .same .same
  | keep (room : Room) : Act .deciding (some .leaving) room room .same .same
  | delete (room : Room) : Act .deleting (some .unlisting) room room .delete .same
  | removeRoom (room : Room) : Act .unlisting none room { room with locked := false } .same .erase
  | unlock (room : Room) : Act .leaving none room { room with locked := false } .same .same

structure Ledger where
  state : Int
  users : Nat
  locked : Bool
  /-- `user_count` of the row, if there is one. -/
  row : Option Int
  listed : Bool
  staff : Stage → Nat

namespace Ledger

/-- The processes that have not yet put the room into `_rooms`. -/
def publishers (self : Ledger) : Nat :=
  self.staff .constructing + self.staff .constructed + self.staff .listing

/-- The joins that `roomState` has counted and `_users` has not. -/
def arriving (self : Ledger) : Nat := self.staff .admitted + self.staff .joined

/-- The processes under the lock of the room. -/
def holders (self : Ledger) : Nat :=
  self.staff .inside + self.staff .decremented + self.staff .erased + self.staff .deciding +
    self.staff .deleting + self.staff .unlisting + self.staff .leaving

structure Sound (books : Ledger) : Prop where
  counted : books.state ≠ destruction →
    (books.users : Int) + books.arriving + books.staff .erased ≤
    books.state + books.staff .constructing
  row : books.state ≠ destruction → books.row = some (books.state + books.staff .constructing -
    books.staff .admitted - books.staff .decremented - books.staff .erased)
  kept : books.state ≠ destruction → books.staff .deleting + books.staff .unlisting = 0
  known : books.state ≠ destruction → books.listed = false → books.publishers = 1
  empty : books.state = destruction →
    books.users + books.arriving + books.staff .erased + books.staff .constructing = 0
  doomed : books.state = destruction → books.staff .deleting = 1 → books.row = some 0
  deleted : books.state = destruction → books.staff .deleting = 0 → books.row = none
  forgotten : books.state = destruction → books.staff .deleting + books.staff .unlisting = 0 →
    books.listed = false ∧ books.publishers = 0
  lock : books.holders = if books.locked then 1 else 0
  publisher : books.publishers + (if books.listed then 1 else 0) ≤ 1
  alone : 0 < books.staff .constructing → books.staff .visiting + books.arriving + books.holders = 0

theorem Sound.holders_le {books : Ledger} (sound : books.Sound) : books.holders ≤ 1 := by
  rw [sound.lock]
  split <;> simp

/-- One process goes from a stage to another. -/
def Shifts (source target : Option Stage) (before after : Stage → Nat) : Prop :=
  ∀ stage, after stage + (if source = some stage then 1 else 0) =
    before stage + (if target = some stage then 1 else 0)

def of (room : Room) (row : Option Int) (listed : Bool) (staff : Stage → Nat) : Ledger :=
  ⟨room.roomState, room.users.keys.length, room.locked, row, listed, staff⟩

end Ledger

def RowEffect.row : RowEffect → Option Int → Option Int
  | .same, row => row
  | .add difference, row => row.map (· + difference)
  | .delete, row => row.filter (0 < ·)

def ListEffect.listed : ListEffect → Bool → Bool
  | .same, listed => listed
  | .insert, _ => true
  | .erase, _ => false

namespace Ledger

theorem length_keys_insert (users : Users) (id : String) (session : Nat) :
    (users.insert id session).keys.length ≤ users.keys.length + 1 := by
  simp only [AList.keys_insert, List.length_cons, Nat.add_le_add_iff_right]
  exact List.length_erase_le

theorem length_keys_erase {users : Users} {id : String} (member : id ∈ users) :
    (users.erase id).keys.length + 1 = users.keys.length := by
  have present : id ∈ users.keys := member
  have positive := List.length_pos_of_mem present
  rw [AList.keys_erase, List.length_erase_of_mem present]
  omega

/-- The stages spelt out. -/
theorem Shifts.table {before after : Stage → Nat} (shifts : Shifts source target before after) :
    (after .constructing + (if source = some .constructing then 1 else 0) =
      before .constructing + (if target = some .constructing then 1 else 0)) ∧
    (after .constructed + (if source = some .constructed then 1 else 0) =
      before .constructed + (if target = some .constructed then 1 else 0)) ∧
    (after .listing + (if source = some .listing then 1 else 0) =
      before .listing + (if target = some .listing then 1 else 0)) ∧
    (after .visiting + (if source = some .visiting then 1 else 0) =
      before .visiting + (if target = some .visiting then 1 else 0)) ∧
    (after .admitted + (if source = some .admitted then 1 else 0) =
      before .admitted + (if target = some .admitted then 1 else 0)) ∧
    (after .joined + (if source = some .joined then 1 else 0) =
      before .joined + (if target = some .joined then 1 else 0)) ∧
    (after .inside + (if source = some .inside then 1 else 0) =
      before .inside + (if target = some .inside then 1 else 0)) ∧
    (after .decremented + (if source = some .decremented then 1 else 0) =
      before .decremented + (if target = some .decremented then 1 else 0)) ∧
    (after .erased + (if source = some .erased then 1 else 0) =
      before .erased + (if target = some .erased then 1 else 0)) ∧
    (after .deciding + (if source = some .deciding then 1 else 0) =
      before .deciding + (if target = some .deciding then 1 else 0)) ∧
    (after .deleting + (if source = some .deleting then 1 else 0) =
      before .deleting + (if target = some .deleting then 1 else 0)) ∧
    (after .unlisting + (if source = some .unlisting then 1 else 0) =
      before .unlisting + (if target = some .unlisting then 1 else 0)) ∧
    (after .leaving + (if source = some .leaving then 1 else 0) =
      before .leaving + (if target = some .leaving then 1 else 0)) := by
  exact ⟨shifts _, shifts _, shifts _, shifts _, shifts _, shifts _, shifts _, shifts _,
    shifts _, shifts _, shifts _, shifts _, shifts _⟩

section Sound

variable {source : Stage} {target : Option Stage} {room next : Room} {rows : RowEffect}
  {listing : ListEffect} {row : Option Int} {listed : Bool} {before after : Stage → Nat}
  (act : Act source target room next rows listing)
    (shifts : Shifts (some source) target before after)
  (sound : (Ledger.of room row listed before).Sound)

include act shifts sound

theorem lock_act : (Ledger.of next (rows.row row) (listing.listed listed) after).holders =
    if next.locked then 1 else 0 := by
  have table := shifts.table
  have lock := sound.lock
  simp only [Ledger.of, holders] at lock ⊢
  cases act <;> simp at table <;> grind

theorem publisher_act : (Ledger.of next (rows.row row) (listing.listed listed) after).publishers +
    (if listing.listed listed then 1 else 0) ≤ 1 := by
  have table := shifts.table
  have publisher := sound.publisher
  simp only [Ledger.of, publishers] at publisher ⊢
  cases act <;> simp at table <;> grind [ListEffect.listed]

theorem alone_act (constructs : 0 < after .constructing) :
    after .visiting + (Ledger.of next (rows.row row) (listing.listed listed) after).arriving +
      (Ledger.of next (rows.row row) (listing.listed listed) after).holders = 0 := by
  have table := shifts.table
  have alone := sound.alone
  have publisher := sound.publisher
  simp only [Ledger.of, arriving, holders, publishers] at alone publisher ⊢
  cases act <;> simp at table <;> grind

/-- No step brings a destroyed room back. -/
theorem remains_act (gone : room.roomState = destruction) : next.roomState = destruction := by
  have table := shifts.table
  have empty := sound.empty
  simp only [Ledger.of, arriving] at empty
  cases act <;> simp at table <;> grind

theorem counted_act (alive : next.roomState ≠ destruction) :
    ((Ledger.of next (rows.row row) (listing.listed listed) after).users : Int) +
      (Ledger.of next (rows.row row) (listing.listed listed) after).arriving + after .erased ≤
        next.roomState + after .constructing := by
  have table := shifts.table
  have counted := sound.counted (mt (remains_act act shifts sound) alive)
  simp only [Ledger.of, arriving] at counted ⊢
  cases act with
  | addUser _ userId session =>
      have grown := length_keys_insert room.users userId session
      simp at table
      grind
  | eraseUser _ userId member =>
      have shrunk := length_keys_erase member
      simp at table
      grind
  | _ => simp at table; grind

theorem row_act (alive : next.roomState ≠ destruction) :
    rows.row row = some (next.roomState + after .constructing - after .admitted -
      after .decremented - after .erased) := by
  have table := shifts.table
  have earlier := mt (remains_act act shifts sound) alive
  have counted := sound.row earlier
  have kept := sound.kept earlier
  simp only [Ledger.of] at counted kept
  cases act <;> simp at table <;> grind [RowEffect.row]

theorem kept_act (alive : next.roomState ≠ destruction) :
    after .deleting + after .unlisting = 0 := by
  have table := shifts.table
  have kept := sound.kept (mt (remains_act act shifts sound) alive)
  simp only [Ledger.of] at kept
  cases act <;> simp at table <;> grind

theorem known_act (present : listing = .erase → listed = true)
    (alive : next.roomState ≠ destruction) (unlisted : listing.listed listed = false) :
    (Ledger.of next (rows.row row) (listing.listed listed) after).publishers = 1 := by
  have table := shifts.table
  have earlier := mt (remains_act act shifts sound) alive
  have known := sound.known earlier
  have kept := sound.kept earlier
  simp only [Ledger.of, publishers] at known kept ⊢
  cases act with
  | addRoom _ => contradiction
  | removeRoom _ =>
      -- a process that erases the room has destroyed it
      simp at table
      omega
  | _ =>
      have publisher := known unlisted
      simp at table
      omega

theorem empty_act (gone : next.roomState = destruction) :
    (Ledger.of next (rows.row row) (listing.listed listed) after).users +
      (Ledger.of next (rows.row row) (listing.listed listed) after).arriving + after .erased +
        after .constructing = 0 := by
  have table := shifts.table
  have counted := sound.counted
  have empty := sound.empty
  have alone := sound.alone
  have publisher := sound.publisher
  simp only [Ledger.of, arriving, holders, publishers, destruction] at counted empty alone publisher gone ⊢
  cases act with
  | addUser _ userId session =>
      simp at table
      grind
  | eraseUser _ userId member =>
      have shrunk := length_keys_erase member
      simp at table
      grind
  | _ => simp at table; grind

theorem doomed_act (gone : next.roomState = destruction) (deletes : after .deleting = 1) :
    rows.row row = some 0 := by
  have table := shifts.table
  have counted := sound.counted
  have ledger := sound.row
  have empty := sound.empty
  have doomed := sound.doomed
  have lock := sound.lock
  have alone := sound.alone
  simp only [Ledger.of, arriving, holders, destruction] at counted ledger empty doomed lock alone gone ⊢
  cases act <;> simp at table <;> grind [RowEffect.row]

theorem deleted_act (gone : next.roomState = destruction) (ended : after .deleting = 0) :
    rows.row row = none := by
  have table := shifts.table
  have counted := sound.counted
  have empty := sound.empty
  have doomed := sound.doomed
  have deleted := sound.deleted
  have kept := sound.kept
  have alone := sound.alone
  have lock := sound.lock
  have publisher := sound.publisher
  simp only [Ledger.of, arriving, holders, publishers, destruction]
    at counted empty doomed deleted kept alone lock publisher gone ⊢
  cases act <;> simp at table <;> grind [RowEffect.row]

theorem forgotten_act (present : listing = .erase → listed = true)
    (gone : next.roomState = destruction) (ended : after .deleting + after .unlisting = 0) :
    listing.listed listed = false ∧
      (Ledger.of next (rows.row row) (listing.listed listed) after).publishers = 0 := by
  have table := shifts.table
  have counted := sound.counted
  have empty := sound.empty
  have forgotten := sound.forgotten
  have publisher := sound.publisher
  have alone := sound.alone
  simp only [Ledger.of, arriving, holders, publishers, destruction]
    at counted empty forgotten publisher alone gone ⊢
  cases act <;> simp at table <;> grind [ListEffect.listed]

/-- Every act keeps the books sound. -/
theorem sound_act (present : listing = .erase → listed = true) :
    (Ledger.of next (rows.row row) (listing.listed listed) after).Sound where
  counted := counted_act act shifts sound
  row := row_act act shifts sound
  kept := kept_act act shifts sound
  known := known_act act shifts sound present
  empty := empty_act act shifts sound
  doomed := doomed_act act shifts sound
  deleted := deleted_act act shifts sound
  forgotten := forgotten_act act shifts sound present
  lock := lock_act act shifts sound
  publisher := publisher_act act shifts sound
  alone := alone_act act shifts sound

end Sound

theorem sound_visit {row : Option Int} {listed : Bool} {before after : Stage → Nat}
    (shifts : Shifts none (some .visiting) before after) (built : before .constructing = 0)
    (sound : (Ledger.of room row listed before).Sound) :
    (Ledger.of room row listed after).Sound := by
  have same : ∀ stage, stage ≠ .visiting → after stage = before stage := by
    intro stage other
    simpa [Ne.symm other] using shifts stage
  have constructing := same .constructing (by simp)
  have publishers : (Ledger.of room row listed after).publishers =
      (Ledger.of room row listed before).publishers := by
    simp [Ledger.publishers, Ledger.of, same]
  have arriving : (Ledger.of room row listed after).arriving =
      (Ledger.of room row listed before).arriving := by
    simp [Ledger.arriving, Ledger.of, same]
  have holders : (Ledger.of room row listed after).holders =
      (Ledger.of room row listed before).holders := by
    simp [Ledger.holders, Ledger.of, same]
  constructor
  · rw [arriving]
    simpa [Ledger.of, same] using sound.counted
  · simpa [Ledger.of, same] using sound.row
  · simpa [Ledger.of, same] using sound.kept
  · rw [publishers]
    exact sound.known
  · rw [arriving]
    simpa [Ledger.of, same] using sound.empty
  · simpa [Ledger.of, same] using sound.doomed
  · simpa [Ledger.of, same] using sound.deleted
  · rw [publishers]
    simpa [Ledger.of, same] using sound.forgotten
  · rw [holders]
    exact sound.lock
  · rw [publishers]
    exact sound.publisher
  · intro constructs
    change 0 < after .constructing at constructs
    omega

/-- The books of a new room: its row is inserted and counts the user who makes it. -/
theorem sound_make {id : String} {staff : Stage → Nat} (maker : staff .constructing = 1)
    (others : ∀ stage, stage ≠ .constructing → staff stage = 0) :
    (Ledger.of ⟨roomId, AList.insert id session ∅, 0, false⟩ (some 1) false staff).Sound := by
  constructor <;> simp [Ledger.of, publishers, arriving, holders, destruction, maker, others]

end Ledger

end ChattingProgram.Server
