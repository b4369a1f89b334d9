import FeedRelay.Feed.Event
import FeedRelay.Relay.Broadcast
import FeedRelay.Topic.Basic

/-!
# What is done about events

Two ways to deal with the events of a feed: hand its messages to the downstream endpoints, or
show them on a console.
-/

namespace FeedRelay

/-- The log line about the end of a connection. -/
def Feed.CloseReason.logLine (topic : Topic) : Feed.CloseReason → Log.Line
  | .requested => Log.info .broadcast s!"Disconnected from upstream {topic.resourcePath}"
  | .remote (some why) =>
    Log.warn .broadcast s!"Upstream {topic.resourcePath} closed the connection: {why}"
  | .remote none => Log.warn .broadcast s!"Upstream {topic.resourcePath} closed the connection"
  | .broken fault =>
    Log.warn .broadcast s!"Lost connection to upstream {topic.resourcePath}: {fault}"

/-- Deal with an event by handing messages to the endpoints of a hub. -/
def Hub.handle (hub : Hub) (topic : Topic) : Feed.Event → Hub × List Log.Line
  | .opened => (hub, [Log.info .broadcast s!"Connected to upstream {topic.resourcePath}"])
  | .message message =>
    let b := hub.broadcast message
    (b.hub, Log.debug .broadcast s!"{topic.displayKey}: {message.payloadText}" :: b.log)
  | .closed reason => (hub, [reason.logLine topic])

end FeedRelay
