import HostBridge.Router

/-!
# Recording routers

A router whose targets record every event they are handed and react to it as they were told: with an
outcome, or with a panic.  A method without a reaction is unknown to its target.
-/

namespace HostBridge

/-- What a recording target does with an event. -/
inductive Reaction where
  | answers (delivery : Delivery)
  | panics (reason : String)
deriving DecidableEq, Repr

/-- A target that records events under its name. -/
structure RecordingTarget where
  name : String
  reactions : Table String Reaction

/-- What a target makes of a method. -/
def RecordingTarget.handle (target : RecordingTarget) (method : String) : Except String Delivery :=
  match target.reactions.find? method with
  | none => .ok .unknownMethod
  | some (.answers delivery) => .ok delivery
  | some (.panics reason) => .error reason

/-- An event as a target saw it. -/
structure RecordedEvent where
  target : String
  method : String
  payload : Json

/-- A router, its targets, its bus with one subscriber, and what was seen and logged. -/
structure RecordingRouter where
  owners : Owners RecordingTarget
  registry : Registry
  bus : Bus
  stream : Stream
  seen : List RecordedEvent
  log : List Logging.Entry

namespace RecordingRouter

/-- The number of events that the bus of a recording router keeps. -/
def busCapacity : Nat := 16

/-- A router without targets. -/
def new : RecordingRouter :=
  let (bus, stream) := (Bus.new busCapacity).subscribe
  ⟨Owners.empty, Registry.empty, bus, stream, [], []⟩

/-- A step on a recording router. -/
inductive Command where
  | target (name : String) (reactions : List (String × Reaction))
  | insert (id : UInt64) (target : String)
  | removeOwned (id : UInt64) (target : String)
  | remove (id : UInt64)
  | drop (target : String)
  | live
  | deliver (inbound : Inbound)
  | shown

/-- What a step answers. -/
inductive Answer where
  | noTarget
  | flag (b : Bool)
  | live (count pruned : Nat)
  | delivered (delivery : Delivery)
  | text (s : String)

/-- The diagnostic text of a router. -/
def shown (router : RecordingRouter) : String :=
  Text.showRecord "EventRouter" [("registry", router.registry.shown)]

/-- Take over what routing did to the bus and what it logged. -/
def follow {α : Type} (router : RecordingRouter) (routing : Routing α) : RecordingRouter :=
  { router with bus := routing.bus, log := router.log ++ routing.log }

/-- Deliver an inbound event. -/
def deliver (router : RecordingRouter) (inbound : Inbound) : RecordingRouter × Delivery :=
  let admitted :=
    inbound.admit router.bus (router.registry.lookup router.owners.alive inbound.objectId)
  let router := router.follow admitted
  match admitted.result with
  | .error delivery => (router, delivery)
  | .ok (key, payload) =>
    match router.owners.value? key with
    | none => (router, .unknownObject)
    | some target =>
      let concluded := inbound.conclude router.bus (target.handle inbound.method)
      ({ router.follow concluded with
          seen := router.seen ++ [⟨target.name, inbound.method, payload⟩] },
        concluded.result)

/-- Take one step. -/
def perform (router : RecordingRouter) : Command → RecordingRouter × Answer
  | .target name reactions =>
    let (owners, used) := router.owners.create name ⟨name, Table.ofList reactions⟩
    ({ router with owners := owners }, .flag used)
  | .insert id name =>
    match router.owners.key? name with
    | none => (router, .noTarget)
    | some key =>
      let (registry, previous) := router.registry.insert router.owners.alive id key
      let entries := if previous.isSome then [Registry.replacedEntry id] else []
      ({ router with registry := registry, log := router.log ++ entries }, .flag previous.isSome)
  | .removeOwned id name =>
    match router.owners.key? name with
    | none => (router, .noTarget)
    | some key =>
      let (registry, removed) := router.registry.removeOwned id key
      let entries := if removed then [] else [Registry.foreignEntry id]
      ({ router with registry := registry, log := router.log ++ entries }, .flag removed)
  | .remove id =>
    let (registry, removed) := router.registry.remove id
    ({ router with registry := registry }, .flag removed)
  | .drop name =>
    let (owners, used) := router.owners.drop name
    ({ router with owners := owners }, .flag used)
  | .live =>
    let count := router.registry.liveCount router.owners.alive
    let (registry, pruned) := router.registry.prune router.owners.alive
    ({ router with registry := registry }, .live count pruned)
  | .deliver inbound =>
    let (router, delivery) := router.deliver inbound
    (router, .delivered delivery)
  | .shown => (router, .text router.shown)

/-- Take what was seen, announced and logged since the last time. -/
def takeTraces (router : RecordingRouter) :
    RecordingRouter × List RecordedEvent × List StreamItem × List Logging.Entry :=
  let (items, stream) := router.stream.drain router.bus
  ({ router with stream := stream, seen := [], log := [] }, router.seen, items, router.log)

end RecordingRouter

end HostBridge
