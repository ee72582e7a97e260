import HostBridge.Session.State

/-!
# Requests, cookies and messages in a session

The actions on the request client, the cookie bridge and the host channel, and on subscriptions.
-/

namespace HostBridge.Session.State

/-- Make a request.  The clock stands still. -/
def request (state : State) (request : NetRequest) (lookups : Option (List String)) :
    State × Reply :=
  match state.context.client with
  | .error error => (state, .failed error)
  | .ok client =>
    match request.refusal? with
    | some error => (state, .failed error)
    | none =>
      let (reply, replies) := match state.replies with
        | reply :: rest => (reply, rest)
        | [] => ([], [])
      let state := ({ state with replies := replies }.note (client.outgoingEntries request)).saw
        [.netCall request]
      let settled := client.settle request 0 reply
      let state := ({ state with context := { state.context with net := some settled.client } }.note
        settled.log).announce (.net settled.event)
      (state, .response settled.response lookups settled.client.stats)

/-- Set a cookie. -/
def setCookie (state : State) (url value : String) : State × Reply :=
  let cookies := state.context.cookies
  let state := state.note [cookies.entry "Set cookie" url]
  match cookies.setTarget? url value with
  | none => (state, .nothing)
  | some target =>
    let state := state.saw [.jarSet target value]
    match state.jar.failure with
    | some error =>
      (state.note [CookieBridge.failureEntry "Native set_cookie failed" target error], .nothing)
    | none =>
      let jar := { state.jar with cookies := state.jar.cookies.insert target value }
      ({ state with jar := jar }, .nothing)

/-- Get a cookie. -/
def getCookie (state : State) (url : String) : State × Option String :=
  let cookies := state.context.cookies
  let state := state.note [cookies.entry "Get cookie" url]
  match cookies.reading url with
  | .answered cookie => (state, cookie)
  | .asked target =>
    let state := state.saw [.jarGet target]
    match state.jar.failure with
    | some error =>
      (state.note [CookieBridge.failureEntry "Native get_cookie failed" target error],
        CookieBridge.cookieOf (.error error))
    | none => (state, CookieBridge.cookieOf (.ok (state.jar.cookies.find? target)))

/-- Read a cookie through a bridge that is off. -/
def getDisabledCookie (state : State) (url : String) : State × Reply :=
  let bridge := CookieBridge.disabled
  let cookie := match bridge.reading url with
    | .answered cookie => cookie
    | .asked _ => none
  (state.note [bridge.entry "Get cookie" url], .cookieBridgeWith bridge cookie)

/-- Post a message to the host; whether there is one. -/
def post (state : State) (message : HostMessage) : State × Reply :=
  let hasHost := state.context.config.channel
  let state := state.note [message.entry hasHost]
  if hasHost then
    match state.channel with
    | .logging => (state.note [message.hostEntry], .flag true)
    | _ => (state.saw [.posted message], .flag true)
  else (state, .flag false)

/-- Subscribe a stream; one that had the name is dropped. -/
def subscribe (state : State) (name : String) (filters : List EventFilter) : State × Reply :=
  let (bus, stream) := state.context.bus.subscribe
  let stream := filters.foldl Stream.withFilter stream
  let bus := if state.streams.contains name then bus.removeSubscriber else bus
  ({ state with
      streams := state.streams.insert name stream
      context := { state.context with bus := bus } },
    .count bus.subscribers)

/-- Take what a stream has to show. -/
def drain (state : State) (name : String) : State × Reply :=
  match state.streams.find? name with
  | none => (state, .items [])
  | some stream =>
    let (items, stream) := stream.drain state.context.bus
    ({ state with streams := state.streams.insert name stream }, .items items)

end HostBridge.Session.State
