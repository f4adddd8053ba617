import ChattingProgram.Protocol.Wire
import ChattingProgram.Server.Posts

namespace ChattingProgram.Server

open ChattingProgram.Core ChattingProgram.Data ChattingProgram.Protocol ChattingProgram.Machine

/-! # Encoding the answers

Every packet that a handler sends goes through `MakeSendBuffer` first.
-/

theorem mem_broadcasts {server : ServerState}
    (posted : post ∈ server.broadcasts room message excluUser) : post.2 = message := by
  unfold ServerState.broadcasts at posted
  split at posted
  · contradiction
  · obtain ⟨entry, _, rfl⟩ := List.mem_map.mp posted
    rfl

/-- The names and counts of `S_REFRESH_LOBBY`, and `isSuccess`. -/
def lobbyBytes (rows : List RoomRow) : Nat :=
  (rows.map fun row => 1 + stringSize (fetchText row.roomName)).sum +
    packedFieldSize (rows.map RoomRow.userCount) + 2

/-- The ids of the accounts in a room. -/
def memberBytes (accounts : List AccountRow) (roomId : Nat) : Nat :=
  ((accounts.filter fun row => row.currentRoomId = some roomId).map fun row => 1 +
    stringSize (fetchText row.id)).sum

section Origin

variable (collate : String → String) (requests : List ServerEvent)

/-- A state that the run goes through. -/
def Visited (state : ServerState) : Prop :=
  ∃ first, first <+: requests ∧ (ServerState.system collate).run first ServerState.fresh =
    some state

/-- The packets of the handlers of a session: what they answer, and how many bytes they take, by the
strings of the request, the rows and the accounts. -/
inductive Origin (session : Nat) : Message → Nat → Prop where
  | login {id pssd : String} (canLogin : Bool) : .request session (.cLogin id pssd) ∈ requests →
      Origin session (.sLogin canLogin id pssd)
        (stringFieldSize id + stringFieldSize pssd + boolFieldSize canLogin)
  | register {id pssd : String} (isSuccess : Bool) :
      .request session (.cRegister id pssd) ∈ requests →
      Origin session (.sRegister isSuccess id pssd)
        (stringFieldSize id + stringFieldSize pssd + boolFieldSize isSuccess)
  | refreshLobby {earlier : ServerState} : .request session .cRefreshLobby ∈ requests →
      Visited collate requests earlier →
      Origin session (.sRefreshLobby true (earlier.db.selectRooms.map Prod.fst)
        (earlier.db.selectRooms.map Prod.snd)) (lobbyBytes earlier.db.room)
  | createRoom {id roomName : String} (canCreate : Bool) :
      .request session (.cCreateRoom id roomName) ∈ requests →
      Origin session (.sCreateRoom canCreate roomName)
      (stringFieldSize roomName + boolFieldSize canCreate)
  | noJoin {id roomName : String} : .request session (.cJoinRoom id roomName) ∈ requests →
      Origin session (.sJoinRoom false roomName []) (stringFieldSize roomName)
  | join {id roomName : String} {earlier : ServerState} {roomId : Nat} :
      .request session (.cJoinRoom id roomName) ∈ requests → Visited collate requests earlier →
      Origin session (.sJoinRoom true roomName (earlier.db.selectMembers roomId))
        (memberBytes earlier.db.account roomId + stringFieldSize roomName + 2)
  | refreshRoom {earlier : ServerState} {roomId : Nat} : Visited collate requests earlier →
      Origin session (.sRefreshRoom (earlier.db.selectMembers roomId))
      (memberBytes earlier.db.account roomId)
  | chatLog {id roomName log : String} : .request session (.cChatLog id roomName log) ∈ requests →
      Origin session (.sChatLog id log) (stringFieldSize id + stringFieldSize log)
  | roomOut : Origin session .sRoomOut 0

/-- The ids that a handler has read. -/
def Listed (userIds : List String) : Prop :=
  ∃ earlier roomId, Visited collate requests earlier ∧ userIds = earlier.db.selectMembers roomId

def RemovePc.Stems : RemovePc → Prop
  | .broadcast userIds => Listed collate requests userIds
  | _ => True

/-- The request that a handler is for, and what it has read so far. -/
def Task.Stems (session : Nat) : Task → Prop
  | .login id pssd _ => .request session (.cLogin id pssd) ∈ requests
  | .register id pssd _ => .request session (.cRegister id pssd) ∈ requests
  | .refreshLobby .select => .request session .cRefreshLobby ∈ requests
  | .refreshLobby (.reply rooms) => .request session .cRefreshLobby ∈ requests ∧
      ∃ earlier, Visited collate requests earlier ∧ rooms = earlier.db.selectRooms
  | .createRoom id roomName _ => .request session (.cCreateRoom id roomName) ∈ requests
  | .joinRoom id roomName (.addUser _ userIds) | .joinRoom id roomName (.broadcast _ userIds)
  | .joinRoom id roomName (.reply _ true userIds) =>
      .request session (.cJoinRoom id roomName) ∈ requests ∧ Listed collate requests userIds
  | .joinRoom id roomName (.reply _ false userIds) =>
      .request session (.cJoinRoom id roomName) ∈ requests ∧ userIds = []
  | .joinRoom id roomName _ => .request session (.cJoinRoom id roomName) ∈ requests
  | .chatLog id log _ => ∃ roomName, .request session (.cChatLog id roomName log) ∈ requests
  | .roomOut _ (.remove _ pc) | .onDisconnected (.remove _ pc) => pc.Stems collate requests
  | _ => True

end Origin

section Runs

variable {collate : String → String} {requests later : List ServerEvent}
  {self after : ServerState} {session : Nat}

theorem Visited.mono (grows : requests <+: later) (visited : Visited collate requests self) :
    Visited collate later self := by
  obtain ⟨first, starts, ran⟩ := visited
  exact ⟨first, starts.trans grows, ran⟩

theorem Listed.mono (grows : requests <+: later) (listed : Listed collate requests userIds) :
    Listed collate later userIds := by
  obtain ⟨earlier, roomId, visited, same⟩ := listed
  exact ⟨earlier, roomId, visited.mono grows, same⟩

theorem RemovePc.Stems.mono (grows : requests <+: later) {pc : RemovePc}
    (stems : pc.Stems collate requests) : pc.Stems collate later := by
  cases pc with
  | broadcast => exact Listed.mono grows stems
  | _ => trivial

theorem Task.Stems.mono (grows : requests <+: later) {task : Task}
    (stems : task.Stems collate requests session) : task.Stems collate later session := by
  have asked : ∀ {event}, event ∈ requests → event ∈ later := fun member => grows.subset member
  cases task with
  | login | register | createRoom => exact asked stems
  | refreshLobby pc =>
      cases pc with
      | select => exact asked stems
      | reply =>
          obtain ⟨request, earlier, visited, same⟩ := stems
          exact ⟨asked request, earlier, visited.mono grows, same⟩
  | joinRoom id roomName pc =>
      cases pc with
      | addUser | broadcast => exact ⟨asked stems.1, stems.2.mono grows⟩
      | reply room canJoin userIds =>
          cases canJoin with
          | true => exact ⟨asked stems.1, stems.2.mono grows⟩
          | false => exact ⟨asked stems.1, stems.2⟩
      | _ => exact asked stems
  | chatLog =>
      obtain ⟨roomName, request⟩ := stems
      exact ⟨roomName, asked request⟩
  | roomOut id pc =>
      cases pc with
      | remove => exact RemovePc.Stems.mono grows stems
      | _ => trivial
  | onDisconnected pc =>
      cases pc with
      | remove => exact RemovePc.Stems.mono grows stems
      | _ => trivial
  | done => trivial

namespace ServerState

theorem RemoveTurn.stems (visited : Visited collate requests self)
    (turn : RemoveTurn collate self room userId pc (some goal) after) :
    goal.Stems collate requests := by
  cases turn with
  | select => exact ⟨self, _, visited, rfl⟩
  | _ => trivial

theorem Turn.stems (visited : Visited collate requests self)
    (turn : Turn collate self session task next after)
    (stems : task.Stems collate requests session) : next.Stems collate requests session := by
  cases turn with
  | refreshLobby => exact ⟨stems, self, visited, rfl⟩
  | unknown | unlisted | refuse | lost => exact ⟨stems, rfl⟩
  | selectMembers => exact ⟨stems, self, _, visited, rfl⟩
  | @leave _ _ _ goal _ turn | @drop _ _ goal _ turn =>
      cases goal with
      | none => trivial
      | some goal => exact turn.stems visited
  | expired => split <;> trivial
  | reply | outSelect | outGetRoom | lock | readId | chat | offline => trivial
  | _ => exact stems

end ServerState

theorem RemovePc.Stems.origin {pc : RemovePc} (stems : pc.Stems collate requests)
    (posted : post ∈ pc.posts self room) :
    ∃ bytes, Origin collate requests session post.2 bytes := by
  cases pc with
  | broadcast userIds =>
      obtain ⟨earlier, roomId, visited, rfl⟩ := stems
      simp only [RemovePc.posts] at posted
      split at posted
      · contradiction
      · rw [mem_broadcasts posted]
        exact ⟨_, .refreshRoom visited⟩
  | _ => contradiction

theorem Task.Stems.origin {task : Task} (stems : task.Stems collate requests session)
    (posted : post ∈ task.posts self session) :
    ∃ bytes, Origin collate requests session post.2 bytes := by
  unfold Task.posts at posted
  split at posted
  · rw [List.mem_singleton.mp posted]
    exact ⟨_, .login _ stems⟩
  · rw [List.mem_singleton.mp posted]
    exact ⟨_, .register _ stems⟩
  · obtain ⟨request, earlier, visited, rfl⟩ := stems
    rw [List.mem_singleton.mp posted]
    exact ⟨_, .refreshLobby request visited⟩
  · rw [List.mem_singleton.mp posted]
    exact ⟨_, .createRoom _ stems⟩
  · obtain ⟨_, earlier, roomId, visited, rfl⟩ := stems
    rw [mem_broadcasts posted]
    exact ⟨_, .refreshRoom visited⟩
  · rename_i canJoin userIds
    rw [List.mem_singleton.mp posted]
    cases canJoin with
    | true =>
        obtain ⟨request, earlier, roomId, visited, rfl⟩ := stems
        exact ⟨_, .join request visited⟩
    | false =>
        obtain ⟨request, rfl⟩ := stems
        exact ⟨_, .noJoin request⟩
  · obtain ⟨roomName, request⟩ := stems
    rw [mem_broadcasts posted]
    exact ⟨_, .chatLog request⟩
  · exact RemovePc.Stems.origin stems posted
  · rw [List.mem_singleton.mp posted]
    exact ⟨_, .roomOut⟩
  · exact RemovePc.Stems.origin stems posted
  · contradiction

end Runs

/-- The packets that list rooms or users. -/
def lists : Message → Bool
  | .sRefreshLobby .. | .sRefreshRoom _ | .sJoinRoom true .. => true
  | _ => false

section

variable {log : String} (long : log.utf8ByteSize = 6000)

include long

end

end ChattingProgram.Server
