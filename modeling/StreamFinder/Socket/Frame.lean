/-!
# Frames

What travels over a connection: data, keep-alive and the announcement that
the connection ends.
-/

namespace StreamFinder.Socket

/-- A frame. -/
inductive Frame where
  | text (s : String)
  | binary (bytes : List UInt8)
  | ping (bytes : List UInt8)
  | pong (bytes : List UInt8)
  | close (code : Nat) (reason : String)
deriving DecidableEq, Repr

namespace Frame

/-- Whether the frame carries data for the user. -/
def isData : Frame → Bool
  | .text _ => true
  | .binary _ => true
  | _ => false

end Frame

/-- The code of an ordinary end. -/
def closeNormal : Nat := 1000

end StreamFinder.Socket
