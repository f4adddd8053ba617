import Mathlib.Logic.Function.Basic

namespace ChattingProgram.Protocol

/-! # Messages

The messages of `Protocol.proto` with their fields, and the packet ids that the
generated handlers give them.
-/

inductive PacketType where
  | cLogin
  | sLogin
  | cRegister
  | sRegister
  | cRefreshLobby
  | sRefreshLobby
  | cCreateRoom
  | sCreateRoom
  | cJoinRoom
  | sJoinRoom
  | sRefreshRoom
  | cChatLog
  | sChatLog
  | cRoomOut
  | sRoomOut
deriving Repr, DecidableEq

/-- The enumerators `PKT_*`. -/
def PacketType.pktId : PacketType → UInt16
  | .cLogin => 1000
  | .sLogin => 1001
  | .cRegister => 1002
  | .sRegister => 1003
  | .cRefreshLobby => 1004
  | .sRefreshLobby => 1005
  | .cCreateRoom => 1006
  | .sCreateRoom => 1007
  | .cJoinRoom => 1008
  | .sJoinRoom => 1009
  | .sRefreshRoom => 1010
  | .cChatLog => 1011
  | .sChatLog => 1012
  | .cRoomOut => 1013
  | .sRoomOut => 1014

theorem PacketType.pktId_injective : Function.Injective PacketType.pktId := by
  intro left right same
  cases left <;> cases right <;> first | rfl | exact absurd same (by decide)

inductive Message where
  | cLogin (id pssd : String)
  | sLogin (isSuccess : Bool) (id pssd : String)
  | cRegister (id pssd : String)
  | sRegister (isSuccess : Bool) (id pssd : String)
  | cRefreshLobby
  | sRefreshLobby (isSuccess : Bool) (roomNames : List String) (userCounts : List Int)
  | cCreateRoom (id roomName : String)
  | sCreateRoom (isSuccess : Bool) (roomName : String)
  | cJoinRoom (id roomName : String)
  | sJoinRoom (isSuccess : Bool) (roomName : String) (userIds : List String)
  | sRefreshRoom (userIds : List String)
  | cChatLog (id roomName log : String)
  | sChatLog (id log : String)
  | cRoomOut (id roomName : String)
  | sRoomOut
deriving Repr, DecidableEq

def Message.type : Message → PacketType
  | .cLogin .. => .cLogin
  | .sLogin .. => .sLogin
  | .cRegister .. => .cRegister
  | .sRegister .. => .sRegister
  | .cRefreshLobby => .cRefreshLobby
  | .sRefreshLobby .. => .sRefreshLobby
  | .cCreateRoom .. => .cCreateRoom
  | .sCreateRoom .. => .sCreateRoom
  | .cJoinRoom .. => .cJoinRoom
  | .sJoinRoom .. => .sJoinRoom
  | .sRefreshRoom .. => .sRefreshRoom
  | .cChatLog .. => .cChatLog
  | .sChatLog .. => .sChatLog
  | .cRoomOut .. => .cRoomOut
  | .sRoomOut => .sRoomOut

end ChattingProgram.Protocol
