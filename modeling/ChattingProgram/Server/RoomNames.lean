import ChattingProgram.Server.Membership

namespace ChattingProgram.Server

open ChattingProgram.Protocol ChattingProgram.Machine

/-! # The names of the rooms in the lobby

`C_REFRESH_LOBBY` reads the names into a buffer of 13 characters, and
`C_JOIN_ROOM` looks for a room by the name that the lobby shows.
-/

theorem length_fetchUnits (units : Nat) (text : List Char) :
    utf16Units (fetchUnits units text) ≤ units := by
  fun_induction fetchUnits units text with
  | case1 => simp [utf16Units]
  | case2 => simp [utf16Units]
  | case3 units char rest single ih =>
      simp only [utf16Units, List.map_cons, List.sum_cons, if_pos single] at ih ⊢
      omega
  | case4 char rest double =>
      decide
  | case5 char rest double units ih =>
      simp only [utf16Units, List.map_cons, List.sum_cons, if_neg double] at ih ⊢
      omega

/-- A text is fetched as a whole when the buffer can hold it. -/
theorem fetchText_eq_iff : fetchText text = text ↔ Short text := by
  constructor
  · intro same
    have fits := length_fetchUnits 13 text.toList
    have whole : fetchUnits 13 text.toList = text.toList := by
      have read := congrArg String.toList same
      rw [fetchText, String.toList_ofList] at read
      exact read
    rw [whole] at fits
    exact fits
  · exact fetchText_eq

namespace Database

variable {collate : String → String} {self : Database}

/-- The rows that a `SELECT` by name finds. -/
def named (collate : String → String) (self : Database) (roomName : String) : List RoomRow :=
  self.room.filter fun row => collate row.roomName = collate roomName

theorem selectRoomId_eq_head (collate : String → String) (self : Database) (roomName : String) :
    self.selectRoomId collate roomName = ((self.named collate roomName).head?).map RoomRow.roomId :=
      by
  rw [selectRoomId, named, List.head?_filter]

theorem named_eq_singleton (distinct : (self.room.map fun row => collate row.roomName).Nodup)
    (member : row ∈ self.room) :
    self.named collate roomName = [row] ↔ collate roomName = collate row.roomName := by
  constructor
  · intro found
    have here : row ∈ self.named collate roomName := by
      rw [found]
      exact List.mem_cons_self
    exact (of_decide_eq_true (List.mem_filter.mp here).2).symm
  · intro same
    have rows : self.room.Nodup := .of_map _ distinct
    rw [named, same]
    refine List.perm_singleton.mp ?_
    refine (List.perm_ext_iff_of_nodup (rows.filter _) (List.nodup_singleton row)).mpr ?_
    intro other
    rw [List.mem_filter, List.mem_singleton]
    constructor
    · rintro ⟨otherMember, named⟩
      exact List.inj_on_of_nodup_map distinct otherMember member (of_decide_eq_true named)
    · rintro rfl
      exact ⟨member, decide_eq_true rfl⟩

end Database

namespace ServerState

/-- The `i`-th room of the lobby: its count is shown beside it, and the shown name finds it
just when the collation takes the first 13 characters for the name; if it tells all names
apart, just when there are no more. -/
theorem listed_names_join_iff {collate : String → String} (self : ServerState)
    (index session : Nat) (id : String)
    (distinct : (self.db.room.map fun row => collate row.roomName).Nodup) :
    ∃ roomNames userCounts, self.advance collate index session (.refreshLobby .select) =
        some (self.put index ⟨session, .refreshLobby (.reply self.db.selectRooms)⟩) ∧
      (∀ server, (Task.refreshLobby (.reply self.db.selectRooms)).posts server session =
        [(session, .sRefreshLobby true roomNames userCounts)]) ∧
      roomNames.length = self.db.room.length ∧ userCounts.length = self.db.room.length ∧
      ∀ (place : Nat) (row : RoomRow), self.db.room[place]? = some row →
        userCounts[place]? = some row.userCount ∧
        ∃ name, roomNames[place]? = some name ∧
          ((self.db.named collate name = [row] ∧
            self.advance collate index session (.joinRoom id name .select) =
              some (self.put index ⟨session, .joinRoom id name (.getRoom row.roomId)⟩)) ↔
          collate (fetchText row.roomName) = collate row.roomName) ∧
          (Function.Injective collate →
            (collate (fetchText row.roomName) = collate row.roomName ↔ Short row.roomName)) := by
  refine ⟨self.db.selectRooms.map Prod.fst, self.db.selectRooms.map Prod.snd, rfl,
    fun _ => rfl, ?_, ?_, ?_⟩
  · simp [Database.selectRooms]
  · simp [Database.selectRooms]
  intro place row found
  have member := List.mem_of_getElem? found
  refine ⟨by simp [Database.selectRooms,
    found], fetchText row.roomName, by simp [Database.selectRooms, found], ?_,
    fun injective => injective.eq_iff.trans fetchText_eq_iff⟩
  rw [← Database.named_eq_singleton distinct member]
  constructor
  · exact fun finds => finds.1
  · intro finds
    refine ⟨finds, ?_⟩
    have selected := Database.selectRoomId_eq_head collate self.db (fetchText row.roomName)
    rw [finds] at selected
    simp only [advance, advanceJoinRoom, selected, List.head?_cons, Option.map_some]

theorem listed_names_join_iff_two_rooms :
    let events := .connect :: handled 0 (.cRegister "a" "p") 0 2 ++
      handled 0 (.cCreateRoom "a" "lobby music") 1 9 ++ handled 0 (.cCreateRoom "a" "news") 2 9
    ∃ state, (system id).run events fresh = some state ∧
      state.db.room = [⟨1, "lobby music", 1⟩, ⟨2, "news", 1⟩] ∧
      state.advance id 3 0 (.joinRoom "b" "news" .select) =
        some (state.put 3 ⟨0, .joinRoom "b" "news" (.getRoom 2)⟩) := by
  intro events
  obtain ⟨state, ran, rows⟩ : ∃ state, (system id).run events fresh = some state ∧
      state.db.room = [⟨1, "lobby music", 1⟩, ⟨2, "news", 1⟩] := ⟨_, rfl, by decide +kernel⟩
  have distinct : (state.db.room.map fun row => id row.roomName).Nodup := by
    rw [rows]
    decide
  obtain ⟨roomNames, userCounts, selected, posts, _, _, lists⟩ :=
    listed_names_join_iff state 3 0 "b" distinct
  obtain ⟨_, name, shown, finds, _⟩ := lists 1 ⟨2, "news", 1⟩ (by rw [rows]; rfl)
  have whole : fetchText "news" = "news" := fetchText_eq (by decide)
  obtain ⟨_, joins⟩ := finds.mpr whole
  have sent := posts state
  simp only [Task.posts, Database.selectRooms, rows, List.map_cons, List.map_nil, whole,
    List.cons.injEq, Prod.mk.injEq, Message.sRefreshLobby.injEq, true_and, and_true] at sent
  rw [← sent.1] at shown
  cases shown
  exact ⟨state, ran, rows, joins⟩

/-- Two rooms whose names agree in the first 13 characters: the lobby shows the same name for
both, and a join by the name of the second finds the first. -/
theorem listed_name_joins_other_room :
    ∃ state, (system id).run (.connect :: handled 0 (.cRegister "a" "p") 0 2 ++
        handled 0 (.cCreateRoom "a" "abcdefghijklm") 1 9 ++
        handled 0 (.cCreateRoom "a" "abcdefghijklmn") 2 9) fresh = some state ∧
      state.db.room = [⟨1, "abcdefghijklm", 1⟩, ⟨2, "abcdefghijklmn", 1⟩] ∧
      state.db.selectRooms = [("abcdefghijklm", 1), ("abcdefghijklm", 1)] ∧
      state.advance id 3 0 (.joinRoom "b" "abcdefghijklm" .select) =
        some (state.put 3 ⟨0, .joinRoom "b" "abcdefghijklm" (.getRoom 1)⟩) :=
  ⟨_, rfl, by decide +kernel, by decide +kernel, rfl⟩

end ServerState

end ChattingProgram.Server
