/-!
# File metadata

What the storage system says of a path, as far as a load needs it.
-/

namespace LoadDispatch

/-- The metadata of one path. -/
structure FileStatus where
  /-- The path. -/
  path : String
  /-- Whether it is a folder. -/
  folder : Bool := false
  /-- The percentage of its blocks that are in the cache. -/
  residency : Int := 0
  /-- Its length in bytes. -/
  length : Int := 0
deriving DecidableEq, Repr

/-- Whether every block is in the cache already. -/
def FileStatus.fullyResident (f : FileStatus) : Bool :=
  100 ≤ f.residency

end LoadDispatch
