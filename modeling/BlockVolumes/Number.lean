import BlockVolumes.Decimal.Shortest

/-!
Numbers as data formats have them: integers, and binary64 numbers kept by their bits.
-/

namespace BlockVolumes

inductive Number
  | integer (value : Int)
  | real (bits : UInt64)
deriving DecidableEq

end BlockVolumes
