import Mathlib.Data.List.Basic
import Mathlib.Data.Nat.Log

namespace ChattingProgram.Data

/-! # Base-128 integers

Seven bits a byte, the lowest first; all bytes but the last have the top bit set.
-/

/-- The number of bytes that a value takes. -/
def varintSize (value : Nat) : Nat := value.log2 / 7 + 1

def varintBytes : Nat → Nat → List UInt8
  | 0, _ => []
  | count + 1, value =>
      if value < 128 then [UInt8.ofNat value]
      else UInt8.ofNat (value % 128 + 128) :: varintBytes count (value / 128)

def varint (value : Nat) : List UInt8 := varintBytes (varintSize value) value

end ChattingProgram.Data
