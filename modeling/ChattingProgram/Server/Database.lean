import Mathlib.Data.List.Basic

namespace ChattingProgram.Server

/-! # The database

The tables of schema `chat` and the statements that the handlers execute, each
of them atomic.  Two strings are equal for the database when the collation maps
them to the same key; `none` is a statement that fails.
The source binds a string up to its first NUL; the texts here are without one.
-/

structure RoomRow where
  roomId : Nat
  roomName : String
  userCount : Int
deriving Repr, DecidableEq

structure AccountRow where
  id : String
  password : String
  isOnline : Bool
  currentRoomId : Option Nat
deriving Repr, DecidableEq

structure LogRow where
  accountId : String
  roomId : Nat
  message : String
deriving Repr, DecidableEq

structure Database where
  room : List RoomRow
  account : List AccountRow
  log : List LogRow
  /-- The `AUTO_INCREMENT` counter of `room_id`. -/
  nextRoomId : Nat
deriving Repr, DecidableEq

/-- What `SQLFetch` leaves in a `WCHAR[14]`, read back as text: the first 13
UTF-16 units. -/
def fetchUnits : Nat → List Char → List Char
  | _, [] => []
  | 0, _ => []
  | units + 1, char :: rest =>
      if char.toNat < 0x10000 then char :: fetchUnits units rest
      else
        match units with
        | 0 => [Char.ofNat 0xFFFD]
        | units + 1 => char :: fetchUnits units rest

def fetchText (text : String) : String := String.ofList (fetchUnits 13 text.toList)

namespace Database

def fresh : Database := ⟨[], [], [], 1⟩

variable (collate : String → String) (self : Database)

/-- `SELECT room_id FROM chat.room WHERE room_name = ?` -/
def selectRoomId (roomName : String) : Option Nat :=
  (self.room.find? fun row => collate row.roomName = collate roomName).map RoomRow.roomId

/-- `SELECT room_name, user_count FROM chat.room` -/
def selectRooms : List (String × Int) :=
  self.room.map fun row => (fetchText row.roomName, row.userCount)

/-- `INSERT INTO chat.room (room_name) VALUES(?)`: `user_count` defaults to 1; the
name is unique and at most 30 characters long. -/
def insertRoom (roomName : String) : Option Database :=
  if 30 < roomName.length ∨ ∃ row ∈ self.room, collate row.roomName = collate roomName then none
  else some { self with
    room := self.room ++ [⟨self.nextRoomId, roomName, 1⟩]
    nextRoomId := self.nextRoomId + 1 }

/-- `UPDATE chat.room SET user_count = user_count + ? WHERE room_id = ?` -/
def addUserCount (roomId : Nat) (difference : Int) : Database :=
  { self with
    room := self.room.map fun row =>
      if row.roomId = roomId then { row with userCount := row.userCount + difference } else row }

/-- `DELETE FROM chat.room WHERE room_id = ? AND user_count <= 0`, with the foreign
keys of `chat.account` and `chat.log`. -/
def deleteRoom (roomId : Nat) : Database :=
  if ∃ row ∈ self.room, row.roomId = roomId ∧ row.userCount ≤ 0 then
    { self with
      room := self.room.filter fun row => ¬ (row.roomId = roomId ∧ row.userCount ≤ 0)
      account := self.account.map fun row =>
        if row.currentRoomId = some roomId then { row with currentRoomId := none } else row
      log := self.log.filter fun row => row.roomId ≠ roomId }
  else self

/-- `SELECT current_room_id FROM chat.account WHERE id = ?` -/
def selectCurrentRoom (id : String) : Option (Option Nat) :=
  (self.account.find? fun row => collate row.id = collate id).map AccountRow.currentRoomId

/-- `SELECT id FROM chat.account WHERE current_room_id = ?` -/
def selectMembers (roomId : Nat) : List String :=
  (self.account.filter fun row => row.currentRoomId = some roomId).map fun row => fetchText row.id

/-- `UPDATE chat.account SET current_room_id = ? WHERE id = ?`; a room that is set
must exist. -/
def updateCurrentRoom (id : String) (roomId : Option Nat) : Option Database :=
  if (∃ row ∈ self.account, collate row.id = collate id) ∧
      ∃ target ∈ roomId, ∀ row ∈ self.room, row.roomId ≠ target then none
  else some { self with
    account := self.account.map fun row =>
      if collate row.id = collate id then { row with currentRoomId := roomId } else row }

/-- `SELECT id FROM chat.account WHERE id = ? And password = ? And is_online = ?` with
`is_online` false, as far as it tells whether there is a row. -/
def selectOffline (id password : String) : Bool :=
  self.account.any fun row =>
    collate row.id = collate id ∧ collate row.password = collate password ∧ row.isOnline = false

/-- `UPDATE chat.account SET is_online = ? WHERE id = ?` -/
def updateOnline (id : String) (isOnline : Bool) : Database :=
  { self with
    account := self.account.map fun row =>
      if collate row.id = collate id then { row with isOnline := isOnline } else row }

/-- `INSERT INTO chat.account (id, password, create_date, is_online) VALUES(?, ?, ?, ?)` with
`is_online` false; the id is the primary key. -/
def insertAccount (id password : String) : Option Database :=
  if 30 < id.length ∨ 255 < password.length ∨ ∃ row ∈ self.account,
    collate row.id = collate id then none
  else some { self with account := self.account ++ [⟨id, password, false, none⟩] }

/-- The join of `chat.account` and `chat.room` for one account: its room. -/
def selectChatRoom (id : String) : Option Nat :=
  (self.selectCurrentRoom collate id).bind fun roomId => roomId.filter fun target =>
    ∃ row ∈ self.room, row.roomId = target

/-- `INSERT INTO chat.log (account_id, room_id, message) VALUES(?, ?, ?)`; both keys
must exist. -/
def insertLog (id : String) (roomId : Nat) (message : String) : Option Database :=
  if (∃ row ∈ self.account, collate row.id = collate id) ∧
      ∃ row ∈ self.room, row.roomId = roomId then
    some { self with log := self.log ++ [⟨id, roomId, message⟩] }
  else none

end Database

end ChattingProgram.Server
