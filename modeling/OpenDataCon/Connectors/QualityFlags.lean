import Mathlib.Data.BitVec

/-!
# Quality flags

The quality of a value is a word of flags, each in the place of its name.
-/

set_option autoImplicit false

namespace OpenDataCon.Connectors

inductive QualityFlag where
  | ONLINE | RESTART | COMM_LOST | REMOTE_FORCED | LOCAL_FORCED | OVERRANGE | REFERENCE_ERR
  | ROLLOVER | DISCONTINUITY | CHATTER_FILTER
deriving DecidableEq, Repr

abbrev QualityFlags := BitVec 16

namespace QualityFlag

def place : QualityFlag → Nat
  | .ONLINE => 0
  | .RESTART => 1
  | .COMM_LOST => 2
  | .REMOTE_FORCED => 3
  | .LOCAL_FORCED => 4
  | .OVERRANGE => 5
  | .REFERENCE_ERR => 6
  | .ROLLOVER => 7
  | .DISCONTINUITY => 8
  | .CHATTER_FILTER => 9

theorem place_lt (flag : QualityFlag) : flag.place < 16 := by
  cases flag <;> decide

end QualityFlag

namespace QualityFlags

def NONE : QualityFlags := 0#16
def ONLINE : QualityFlags := 1#16 <<< QualityFlag.ONLINE.place
def COMM_LOST : QualityFlags := 1#16 <<< QualityFlag.COMM_LOST.place

end QualityFlags

end OpenDataCon.Connectors
