/-!
# Frames

What travels on a websocket connection once it is open: data frames, which carry text or
bytes, and control frames.
-/

namespace FeedRelay

/-- The body of a close frame. -/
structure CloseBody where
  code : Nat
  reason : String
  deriving DecidableEq, Repr

/-- A frame of a websocket connection. `fragment` is one that has not been put together. -/
inductive Frame where
  | text (s : String)
  | binary (bytes : List UInt8)
  | ping (bytes : List UInt8)
  | pong (bytes : List UInt8)
  | close (body : Option CloseBody)
  | fragment
  deriving DecidableEq, Repr

end FeedRelay
