import Mathlib.Algebra.BigOperators.Group.List.Basic
import Mathlib.Tactic.Ring
import ChattingProgram.Data.Varint
import ChattingProgram.Protocol.PacketHandler

namespace ChattingProgram.Protocol

open ChattingProgram.Data

/-! # The wire format of the messages

The generated `_InternalSerialize` and `ByteSizeLong`.  A field that has its
default value is left out, except in a repeated field.
-/

/-- A length-delimited field. -/
def writeString (field : Nat) (text : String) : List UInt8 :=
  varint (8 * field + 2) ++ varint text.utf8ByteSize ++ text.toByteArray.data.toList

def stringField (field : Nat) (text : String) : List UInt8 :=
  if text = "" then [] else writeString field text

def repeatedField (field : Nat) (texts : List String) : List UInt8 :=
  texts.flatMap (writeString field)

def boolField (field : Nat) (value : Bool) : List UInt8 :=
  if value then varint (8 * field) ++ varint 1 else []

/-- An `int64` as it is written: in 64 bits, two's complement. -/
def int64Bytes (value : Int) : List UInt8 := varint (value % 2 ^ 64).toNat

def packedField (field : Nat) (values : List Int) : List UInt8 :=
  if values = [] then []
  else varint (8 * field + 2) ++ varint (values.flatMap int64Bytes).length ++
    values.flatMap int64Bytes

namespace Message

def serialize : Message → List UInt8
  | .cLogin id pssd | .cRegister id pssd => stringField 1 id ++ stringField 2 pssd
  | .sLogin isSuccess id pssd | .sRegister isSuccess id pssd =>
      boolField 1 isSuccess ++ stringField 2 id ++ stringField 3 pssd
  | .cRefreshLobby | .sRoomOut => []
  | .sRefreshLobby isSuccess roomNames userCounts =>
      boolField 1 isSuccess ++ repeatedField 2 roomNames ++ packedField 3 userCounts
  | .cCreateRoom id roomName | .cJoinRoom id roomName | .cRoomOut id roomName =>
      stringField 1 id ++ stringField 2 roomName
  | .sCreateRoom isSuccess roomName => boolField 1 isSuccess ++ stringField 2 roomName
  | .sJoinRoom isSuccess roomName userIds =>
      boolField 1 isSuccess ++ stringField 2 roomName ++ repeatedField 3 userIds
  | .sRefreshRoom userIds => repeatedField 1 userIds
  | .cChatLog id roomName log => stringField 1 id ++ stringField 2 roomName ++ stringField 3 log
  | .sChatLog id log => stringField 1 id ++ stringField 2 log

end Message

/-- `WireFormatLite::StringSize` -/
def stringSize (text : String) : Nat := varintSize text.utf8ByteSize + text.utf8ByteSize

def stringFieldSize (text : String) : Nat := if text = "" then 0 else 1 + stringSize text

def boolFieldSize (value : Bool) : Nat := if value then 2 else 0

/-- `WireFormatLite::Int64Size` -/
def int64Size (values : List Int) : Nat :=
  (values.map fun value => varintSize (value % 2 ^ 64).toNat).sum

def packedFieldSize (values : List Int) : Nat :=
  if values = [] then 0 else 1 + varintSize (int64Size values) + int64Size values

namespace Message

end Message

/-! ## Sizes -/

/-- The generated classes, with any parser. -/
def generated (parse : (type : PacketType) → List UInt8 →
    Option { message : Message // message.type = type }) : Protobuf :=
  ⟨Message.serialize, parse⟩

/-- A parser that knows some messages. -/
def parseKnown (known : List Message) (type : PacketType) (bytes : List UInt8) :
    Option { message : Message // message.type = type } :=
  known.findSome? fun message =>
    if fits : message.type = type ∧ bytes = message.serialize then some ⟨message, fits.1⟩ else none

end ChattingProgram.Protocol
