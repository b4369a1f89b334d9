import FeedRelay.Frame
import FeedRelay.Text.Utf8

/-!
# Messages

A message is a data frame together with the key of the topic it came from. The payload is not
looked into: the frame sent on is of the kind of the frame received and has the same body.
-/

namespace FeedRelay

/-- What a data frame carries. -/
inductive Payload where
  | text (s : String)
  | binary (bytes : List UInt8)
  deriving DecidableEq, Repr

/-- A payload and the key of its topic. -/
structure Message where
  topic : String
  payload : Payload
  deriving DecidableEq, Repr

/-- The payload of a frame; control frames have none. -/
def Frame.payload? : Frame → Option Payload
  | .text s => some (.text s)
  | .binary bytes => some (.binary bytes)
  | _ => none

namespace Payload

/-- The frame that carries a payload. -/
def toFrame : Payload → Frame
  | .text s => .text s
  | .binary bytes => .binary bytes

/-- A payload to look at: what of its bytes is no text is replaced. -/
def toText : Payload → String
  | .text s => s
  | .binary bytes => String.ofList (Text.Utf8.decodeLossy bytes)

end Payload

namespace Message

/-- The message of a frame that came from a topic; control frames are none. -/
def ofFrame? (topic : String) (frame : Frame) : Option Message :=
  frame.payload?.map fun payload => { topic, payload }

/-- The frame in which a message is sent on. -/
def toFrame (message : Message) : Frame :=
  message.payload.toFrame

/-- The text view of a message. -/
def payloadText (message : Message) : String :=
  message.payload.toText

end Message

/-- The frame sent on is the frame received. -/
theorem Message.toFrame_of_ofFrame? {topic : String} {frame : Frame} {message : Message}
    (h : Message.ofFrame? topic frame = some message) : message.toFrame = frame := by
  cases frame <;> simp [ofFrame?, Frame.payload?] at h <;> subst h <;> rfl

end FeedRelay
