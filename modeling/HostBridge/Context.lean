import HostBridge.Config
import HostBridge.Cookie
import HostBridge.Net.Client
import HostBridge.Router
import HostBridge.View.Basic

/-!
# The bridge context

Everything that the managed side keeps: the bus, the registry of views, the parked continuations and
the counters of the request client.  The operations here are the parts of a bridge operation between
two calls of an engine or of application code; the answers of engines are arguments.
-/

namespace HostBridge

open Logging (Level Entry Component)

/-- The state of a bridge. -/
structure Context (σ : Type) where
  config : Config
  bus : Bus
  registry : Registry
  callbacks : CallbackTable (Continuation σ)
  views : Table ObjectKey (View σ)
  /-- The identity of the next view. -/
  nextView : ObjectKey
  net : Option NetClient
  cookies : CookieBridge
  /-- What was logged, oldest first. -/
  log : List Entry

namespace Context

variable {σ : Type}

/-- Log entries. -/
def note (context : Context σ) (entries : List Entry) : Context σ :=
  { context with log := context.log ++ entries }

/-- Announce an event. -/
def announce (context : Context σ) (event : Event) : Context σ :=
  { context with bus := context.bus.announce event }

/-- A context with a valid configuration. -/
def new (config : Config) (complain : Complaint) : Except BridgeError (Context σ) :=
  match config.validate with
  | .error error => .error (.ofSetup error)
  | .ok () =>
    let cookies : CookieBridge := ⟨config.cookies, config.features.nativeCookie⟩
    let entry := Component.context.log .info "Bridge context initialized"
      [("image_engine", Text.showBool config.image), ("net_engine", Text.showBool config.net),
        ("web_engine", Text.showBool config.web),
        ("native_cookie", Text.showBool cookies.isEnabled)]
    .ok {
      config := config
      bus := Bus.new config.bufferSize
      registry := Registry.empty
      callbacks := CallbackTable.empty
      views := Table.empty
      nextView := 0
      net :=
        if config.net then some (NetClient.new config.features.logPayloads complain) else none
      cookies := cookies
      log := [entry] }

/-- Ask for a capability. -/
def require (context : Context σ) (capability : Capability) : Except BridgeError Unit :=
  (context.config.require capability).mapError .ofSetup

/-- The request client. -/
def client (context : Context σ) : Except BridgeError NetClient :=
  match context.net with
  | some client => .ok client
  | none => .error (.capabilityMissing .net "no native network stack configured")

/-- The view with an identity. -/
def view? (context : Context σ) (key : ObjectKey) : Option (View σ) := context.views.find? key

/-- Change the view with an identity. -/
def modifyView (context : Context σ) (key : ObjectKey) (change : View σ → View σ) : Context σ :=
  { context with views := context.views.modify key change }

/-- Whether the application holds the view with an identity. -/
def alive (context : Context σ) (key : ObjectKey) : Bool := (context.view? key).any View.held

/-- The number of registered living views. -/
def liveObjects (context : Context σ) : Nat := context.registry.liveCount context.alive

/-- The number of parked continuations. -/
def pendingCallbacks (context : Context σ) : Nat := context.callbacks.pending

/-- Take over a native instance: the view is registered before anything else happens to it. -/
def adopt (context : Context σ) (address : UInt64) : Context σ × ObjectKey :=
  let key := context.nextView
  let context := { context with
    views := context.views.insert key (View.new address)
    nextView := key + 1 }
  let (registry, previous) := context.registry.insert context.alive address key
  let replaced := if previous.isSome then [Registry.replacedEntry address] else []
  (({ context with registry := registry }.announce (.lifecycle (.registered address))).note
      (replaced ++ [ViewLog.created address]),
    key)

/-- Create a view with the engine's answer. -/
def createView (context : Context σ) (answer : Except EngineError UInt64) :
    Context σ × Except BridgeError ObjectKey :=
  match answer with
  | .error error => (context, .error (.engine error))
  | .ok address =>
    if address = 0 then
      (context, .error (.transport "web engine returned a null instance"))
    else
      let (context, key) := context.adopt address
      (context, .ok key)

/-- Begin to destroy a view: clear its handle and remove its own registry entry.  The address is
handed out for release; none if the view was destroyed before. -/
def beginDestroy (context : Context σ) (key : ObjectKey) : Context σ × Option UInt64 :=
  match context.view? key with
  | none => (context, none)
  | some view =>
    match view.handle.release with
    | (_, none) => (context, none)
    | (handle, some address) =>
      let (registry, removed) := context.registry.removeOwned view.objectId key
      let context := { context with
        registry := registry
        views := context.views.insert key { view with handle := handle } }
      (if removed then context else context.note [Registry.foreignEntry view.objectId],
        some address)

/-- Take the continuations with the given ids out of the table. -/
def resolveAll (callbacks : CallbackTable (Continuation σ)) :
    List CallbackId → CallbackTable (Continuation σ) × List (Continuation σ)
  | [] => (callbacks, [])
  | id :: rest =>
    let (callbacks, found) := callbacks.resolve id
    let (callbacks, others) := resolveAll callbacks rest
    (callbacks, found.toList ++ others)

/-- Finish destroying a view: its continuations are abandoned and handed out. -/
def endDestroy (context : Context σ) (key : ObjectKey) : Context σ × List (Continuation σ) :=
  match context.view? key with
  | none => (context, [])
  | some view =>
    let (callbacks, abandoned) := resolveAll context.callbacks view.pending
    let context := { context with
      callbacks := callbacks
      views := context.views.insert key { view with pending := [] } }
    ((context.note [ViewLog.destroyed view.objectId view.pending.length]).announce
        (.lifecycle (.released view.objectId)),
      abandoned)

/-- Stop tracking a continuation of a view and take it out of the table. -/
def takeCallback (context : Context σ) (key : ObjectKey) (id : CallbackId) :
    Context σ × Option (Continuation σ) :=
  let (callbacks, found) := context.callbacks.resolve id
  ({ context with callbacks := callbacks }.modifyView key (·.untrack id), found)

/-- A fresh id for a script, with its continuation parked and tracked if there is one. -/
def issueCallback (context : Context σ) (key : ObjectKey) (continuation : Option (Continuation σ)) :
    Context σ × CallbackId :=
  let (callbacks, id) := context.callbacks.issue
  match continuation with
  | none => ({ context with callbacks := callbacks }, id)
  | some continuation =>
    ({ context with callbacks := callbacks.park id continuation }.modifyView key (·.track id), id)

/-- The instance that a call goes to; none if the view was destroyed and the call is ignored. -/
def outbound (context : Context σ) (view : View σ) (call : Outbound) :
    Context σ × Option UInt64 :=
  if view.isDestroyed then (context.note [ViewLog.ignored view.objectId call.method], none)
  else (context.note [ViewLog.invoking view.objectId call.method], some view.handle.address)

/-- The diagnostic text of a context. -/
def shown (context : Context σ) : String :=
  Text.showRecord "BridgeContext"
    [("config", context.config.shown), ("registry", context.registry.shown),
      ("callbacks", context.callbacks.shown),
      ("net", Text.showOption (context.net.map NetClient.shown))]

end Context

end HostBridge
