/-! Names of windows. Which windows exist is the desktop's business; a tree may name any. -/

namespace PocketDesk

structure WindowId where
  name : String
  deriving DecidableEq, Repr

/-- Names are ordered by their characters, so also by the bytes that encode them. -/
instance : Ord WindowId := ⟨fun a b => compare a.name b.name⟩

instance : ToString WindowId := ⟨WindowId.name⟩

end PocketDesk
