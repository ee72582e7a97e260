import HostBridge.Json.Printer
import HostBridge.Logging.Entry
import HostBridge.Text.Quoted
import HostBridge.Text.Utf8

/-!
# The host channel

Messages to the host application, each with a topic and a content.  Without a host they are dropped.
-/

namespace HostBridge

/-- A message to the host. -/
structure HostMessage where
  topic : String
  content : String
deriving DecidableEq, Repr

namespace HostMessage

/-- An event for the host's own log. -/
def logEvent (event : String) (params : Option (List (String × String))) : HostMessage :=
  ⟨"LOG_EVENT",
    (Json.object [("event", .string event), ("params", .ofOption .ofTexts params)]).render⟩

/-- The user agent that the host should use. -/
def userAgent (value : String) : HostMessage := ⟨"USERAGENT:DEFAULT", value⟩

/-- Whether the bridge is at work. -/
def status (running : Bool) : HostMessage := ⟨"UPDATE:STATUS", if running then "START" else "STOP"⟩

/-- A download has begun. -/
def downloadStarted : HostMessage := ⟨"DOWNLOAD:START", ""⟩

open Logging (Level Entry Component)

/-- The length of the content as a field of a log entry. -/
def lengthField (message : HostMessage) : String × String :=
  ("content_len", toString (Text.byteLength message.content))

/-- What is logged when a message is posted or dropped. -/
def entry (message : HostMessage) (hasHost : Bool) : Entry :=
  if hasHost then
    Component.channel.log .debug "Posting to host channel"
      [("topic", message.topic), message.lengthField]
  else
    Component.channel.log .debug "No host channel; message dropped" [("topic", message.topic)]

/-- What a host that only logs makes of a message. -/
def hostEntry (message : HostMessage) : Entry :=
  Component.hostChannel.log .info "Host channel message"
    [("topic", message.topic), message.lengthField]

end HostMessage

/-- The diagnostic text of a channel. -/
def shownChannel (hasHost : Bool) : String :=
  let host :=
    if hasHost then
      some (Text.quote ("HostChannel " ++ Text.openBrace ++ " ... " ++ Text.closeBrace))
    else none
  Text.showRecord "NativeChannel" [("host", Text.showOption host)]

end HostBridge
