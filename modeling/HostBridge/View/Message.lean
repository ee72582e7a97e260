import HostBridge.Callback
import HostBridge.Event.Basic
import HostBridge.Json.Printer

/-!
# Messages of web views

What the bridge says to a native web view, with the method and the JSON payload of each call, and
how it reads what the native side says back.
-/

namespace HostBridge

/-- A call to a native web view. -/
inductive Outbound where
  | loadUrl (url : String) (headers : Option (List (String × String)))
  | loadData (baseUrl : Option String) (data : String) (mimeType encoding historyUrl : Option String)
  | evaluate (script : String) (id : CallbackId)
  | addInterface (name : String)

namespace Outbound

/-- The name of the method that a call invokes. -/
def method : Outbound → String
  | loadUrl _ _ => "loadUrl"
  | loadData _ _ _ _ _ => "loadDataWithBaseURL"
  | evaluate _ _ => "evaluateJavascript"
  | addInterface _ => "addJavascriptInterface"

/-- The payload of a call.  Headers are left out where there are none; other missing values are
null. -/
def payload : Outbound → Json
  | loadUrl url none => .object [("url", .string url)]
  | loadUrl url (some headers) => .object [("url", .string url), ("headers", .ofTexts headers)]
  | loadData baseUrl data mimeType encoding historyUrl =>
    .object [("baseUrl", .ofOption .string baseUrl), ("data", .string data),
      ("mimeType", .ofOption .string mimeType), ("encoding", .ofOption .string encoding),
      ("historyUrl", .ofOption .string historyUrl)]
  | evaluate script id => .object [("script", .string script), ("callbackId", id.toJson)]
  | addInterface name => .object [("name", .string name)]

end Outbound

/-- The inbound methods that a view handles. -/
inductive InboundMethod where
  | loadProgress
  | evaluateResult
  | scriptMessage
deriving DecidableEq, Repr

namespace InboundMethod

/-- The name of an inbound method. -/
def name : InboundMethod → String
  | loadProgress => "onNativeLoadProgress"
  | evaluateResult => "onEvaluateJavascriptResult"
  | scriptMessage => "didReceiveScriptMessage"

/-- The inbound method with a name. -/
def ofName? (text : String) : Option InboundMethod :=
  [loadProgress, evaluateResult, scriptMessage].find? (fun method => method.name = text)

end InboundMethod

/-- The progress that a payload reports: an integer of 32 bits. -/
def loadProgress? (payload : Json) : Option Int32 :=
  ((payload.get? "progress").bind Json.asInt?).bind int32?

/-- The result of a script in a payload: null and nothing are none, a text is itself and every other
value its compact text. -/
def scriptResult (payload : Json) : Option String :=
  match payload.get? "result" with
  | none => none
  | some .null => none
  | some (.string s) => some s
  | some other => some other.render

/-- A call from a script: the interface, the method and the arguments. -/
structure ScriptMessage where
  interface : String
  method : String
  args : List Json

/-- Read a call from a script; arguments that are no array are none. -/
def ScriptMessage.ofJson? (payload : Json) : Option ScriptMessage := do
  let interface ← (payload.get? "name").bind Json.asString?
  let body := (payload.get? "body").getD .null
  let method ← (body.get? "method").bind Json.asString?
  return ⟨interface, method, ((body.get? "args").bind Json.asArray?).getD []⟩

/-- The phases of a page load that a client is told about. -/
inductive Phase where
  | started
  | resource
  | finished
  | progress
deriving DecidableEq, Repr

/-- What a reported progress leads to: calls of the client and announcements. -/
inductive ProgressTask where
  | notify (phase : Phase)
  | announce (event : ViewEvent)
deriving DecidableEq, Repr

/-- The tasks of a reported progress, in their order. -/
def progressTasks (objectId : UInt64) (progress : Int32) : List ProgressTask :=
  (if progress = 100 then
      [.notify .resource, .notify .finished, .announce (.loadResource objectId),
        .announce (.pageFinished objectId)]
    else [])
    ++ (if progress = 0 then [.notify .started, .announce (.pageStarted objectId)] else [])
    ++ [.notify .progress, .announce (.progressChanged objectId progress)]

end HostBridge
