import HostBridge.Event.Session
import HostBridge.Proofs.Session.Unobserved

/-!
# Observers

Anybody may subscribe to the bus of a session, read from it or leave at any time, also in the middle
of an operation, and the bus may keep any number of events.  None of this shows in what operations
do.

Main statement: whoever observes them, the same operations are answered the same, see the same of
the engines and of the application's code, and leave the same behind (`Machine.indifference`).
-/

namespace HostBridge.Session

/-- A turn of a run under observation. -/
inductive Turn where
  /-- The application begins an operation, once the last one is answered. -/
  | begin (action : Action)
  /-- The operation under way goes on. -/
  | proceed
  /-- Somebody uses the bus. -/
  | observe (command : BusSession.Command)

/-- Whether a turn is one of the application and not of an observer. -/
def Turn.operates : Turn → Bool
  | .observe _ => false
  | _ => true

/-- Somebody uses the bus and the streams of a session. -/
def State.watched (state : State) (command : BusSession.Command) : State :=
  let session := (BusSession.perform ⟨state.context.bus, state.streams⟩ command).1
  { state with
    context := { state.context with bus := session.bus }
    streams := session.streams }

/-- What operations tell and leave behind. -/
structure Effects where
  /-- The answer to the operation of the application, once there is one. -/
  reply : Option Reply
  /-- The calls of engines, clients, continuations and targets, with the answers to nested
  operations. -/
  seen : List Sighting
  registry : Registry
  callbacks : CallbackTable (Continuation Action)
  /-- The views, with their handles, bindings, clients and pending ids. -/
  views : Table ObjectKey (View Action)
  net : Option NetClient
  log : List Logging.Entry
  viewNames : Table String ObjectKey
  bitmaps : Table String Bitmap
  slots : Table Nat Slot
  jar : ScriptedJar
  web : ScriptedWeb
  images : Images

namespace Machine

/-- A session in which no operation is under way. -/
def idle (state : State) : Machine := ⟨state, [], .reply .nothing⟩

/-- Take a turn. -/
def take (machine : Machine) : Turn → Machine
  | .begin action => if machine.reply?.isSome then start machine.state action else machine
  | .proceed => machine.step
  | .observe command => { machine with state := machine.state.watched command }

def after (machine : Machine) (turns : List Turn) : Machine := turns.foldl take machine

/-- What the turns of the application lead to, one after the other. -/
def course : Machine → List Turn → List Machine
  | _, [] => []
  | machine, turn :: turns =>
    (if turn.operates then [machine.take turn] else []) ++ course (machine.take turn) turns

/-- What a run has led to so far. -/
def effects (machine : Machine) : Effects :=
  let state := machine.state
  let context := state.context
  { reply := machine.reply?
    seen := state.seen
    registry := context.registry
    callbacks := context.callbacks
    views := context.views
    net := context.net
    log := context.log
    viewNames := state.viewNames
    bitmaps := state.bitmaps
    slots := state.slots
    jar := state.jar
    web := state.web
    images := state.images }

/-- Whether a machine is about to ask about the bridge and its bus only.  Code that does so is an
observer, and its questions are turns of observers. -/
def observes (machine : Machine) : Bool :=
  match machine.mode with
  | .perform action => action.observes
  | _ => false

variable {machine other : Machine}

/-! ### Machines that differ in their observers -/

/-- The effects of a machine do not depend on who observes it. -/
theorem effects_of_unobserved (same : machine.unobserved = other.unobserved) :
    machine.effects = other.effects := by
  have effects : machine.unobserved.effects = other.unobserved.effects := by rw [same]
  exact effects

/-- Whether a machine is about to observe does not depend on who observes it. -/
theorem observes_of_unobserved (same : machine.unobserved = other.unobserved) :
    machine.observes = other.observes := by
  have observes : machine.unobserved.observes = other.unobserved.observes := by rw [same]
  exact observes

/-- What observers do does not show. -/
theorem unobserved_take_of_silent (machine : Machine) {turn : Turn}
    (silent : turn.operates = false) : (machine.take turn).unobserved = machine.unobserved := by
  cases turn with
  | observe command => rfl
  | begin action => cases silent
  | proceed => cases silent

/-- A turn that operates does the same with observers and without. -/
theorem unobserved_take (blind : machine.observes = false) {turn : Turn}
    (operates : turn.operates = true) :
    (machine.take turn).unobserved = (machine.unobserved.take turn).unobserved := by
  cases turn with
  | observe command => cases operates
  | begin action =>
      have reply : machine.unobserved.reply? = machine.reply? := rfl
      rw [take, take, reply]
      split
      · rfl
      · rfl
  | proceed =>
      apply machine.unobserved_step
      intro action performs
      rwa [observes, performs] at blind

/-- Two sessions that differ in their observers take the same turn. -/
theorem unobserved_take_of_unobserved (same : machine.unobserved = other.unobserved)
    (blind : machine.observes = false) {turn : Turn} (operates : turn.operates = true) :
    (machine.take turn).unobserved = (other.take turn).unobserved := by
  have also : other.observes = false := (observes_of_unobserved same).symm.trans blind
  rw [unobserved_take blind operates, unobserved_take also operates, same]

/-! ### Runs -/

/-- A turn that only observes is passed over by the course. -/
theorem course_cons_of_silent (machine : Machine) {turn : Turn} (turns : List Turn)
    (silent : turn.operates = false) :
    machine.course (turn :: turns) = (machine.take turn).course turns := by
  rw [course, silent]
  rfl

/-- A turn that operates is a step of the course. -/
theorem course_cons_of_operates (machine : Machine) {turn : Turn} (turns : List Turn)
    (operates : turn.operates = true) :
    machine.course (turn :: turns) = machine.take turn :: (machine.take turn).course turns := by
  rw [course, operates]
  rfl

/-- Turns of observers only. -/
theorem unobserved_after_of_silent (machine : Machine) {turns : List Turn}
    (silent : ∀ turn ∈ turns, ¬ turn.operates = true) :
    (machine.after turns).unobserved = machine.unobserved ∧ machine.course turns = [] := by
  induction turns generalizing machine with
  | nil => exact ⟨rfl, rfl⟩
  | cons turn turns ih =>
      obtain ⟨here, others⟩ := List.forall_mem_cons.mp silent
      have here : turn.operates = false := Bool.eq_false_iff.mpr here
      obtain ⟨last, course⟩ := ih (machine.take turn) others
      rw [machine.course_cons_of_silent turns here]
      exact ⟨last.trans (machine.unobserved_take_of_silent here), course⟩

theorem after_append (machine : Machine) (earlier later : List Turn) :
    machine.after (earlier ++ later) = (machine.after earlier).after later := List.foldl_append

theorem course_append (machine : Machine) (earlier later : List Turn) :
    machine.course (earlier ++ later) =
      machine.course earlier ++ (machine.after earlier).course later := by
  induction earlier generalizing machine with
  | nil => rfl
  | cons turn earlier ih =>
      rw [List.cons_append, course, course, ih, List.append_assoc]
      rfl

/-- The same operations lead to the same, whoever observes them. -/
theorem course_of_unobserved {turns others : List Turn}
    (same : machine.unobserved = other.unobserved)
    (operations : turns.filter Turn.operates = others.filter Turn.operates)
    (blind : machine.observes = false)
    (blinds : ∀ visited ∈ machine.course turns, visited.observes = false) :
    (machine.course turns).map effects = (other.course others).map effects ∧
      (machine.after turns).unobserved = (other.after others).unobserved := by
  induction turns generalizing machine other others with
  | nil =>
      have silent := List.filter_eq_nil_iff.mp operations.symm
      obtain ⟨last, course⟩ := other.unobserved_after_of_silent silent
      rw [course]
      exact ⟨rfl, same.trans last.symm⟩
  | cons turn turns ih =>
      cases operates : turn.operates with
      | false =>
          rw [machine.course_cons_of_silent turns operates] at blinds ⊢
          have unseen := machine.unobserved_take_of_silent operates
          rw [List.filter_cons_of_neg (Bool.eq_false_iff.mp operates)] at operations
          exact ih (unseen.trans same) operations ((observes_of_unobserved unseen).trans blind)
            blinds
      | true =>
          -- the other run comes to the same turn after some of its observers
          rw [List.filter_cons_of_pos operates] at operations
          obtain ⟨watching, later, rfl, silent, -, rest⟩ :=
            List.filter_eq_cons_iff.mp operations.symm
          obtain ⟨watched, unnoticed⟩ := other.unobserved_after_of_silent silent
          have taken := unobserved_take_of_unobserved (same.trans watched.symm) blind operates
          rw [machine.course_cons_of_operates turns operates] at blinds ⊢
          obtain ⟨next, nexts⟩ := List.forall_mem_cons.mp blinds
          obtain ⟨courses, lasts⟩ := ih taken rest.symm next nexts
          rw [course_append, unnoticed, List.nil_append, after_append,
            course_cons_of_operates _ later operates, List.map_cons, List.map_cons, courses,
            effects_of_unobserved taken]
          exact ⟨rfl, lasts⟩

/-- How many events its bus keeps does not show in a new session. -/
theorem unobserved_of_new {config : Config} {size room : Nat} {images : Images}
    {channel : ChannelKind} {complain : Complaint} {state other : State}
    (begins : State.new { config with bufferSize := size } images channel complain = .ok state)
    (also : State.new { config with bufferSize := room } images channel complain = .ok other) :
    state.unobserved = other.unobserved := by
  unfold State.new Context.new at begins also
  cases first : Config.validate { config with bufferSize := size } with
  | error error =>
      rw [first] at begins
      cases begins
  | ok accepted =>
      cases second : Config.validate { config with bufferSize := room } with
      | error error =>
          rw [second] at also
          cases also
      | ok accepted =>
          rw [first] at begins
          rw [second] at also
          cases begins
          cases also
          rfl

/-- The same operations are answered the same, see the same and leave the same behind, turn by turn
and in the end, whatever other turns observers take and however many events the bus keeps.  Only
code that asks about the bus could tell, and such code is an observer. -/
theorem indifference {config : Config} {size room : Nat} {images : Images}
    {channel : ChannelKind} {complain : Complaint} {state other : State} {turns others : List Turn}
    (begins : State.new { config with bufferSize := size } images channel complain = .ok state)
    (also : State.new { config with bufferSize := room } images channel complain = .ok other)
    (operations : turns.filter Turn.operates = others.filter Turn.operates)
    (blind : ∀ visited ∈ (idle state).course turns, visited.observes = false) :
    ((idle state).course turns).map effects = ((idle other).course others).map effects ∧
      ((idle state).after turns).effects = ((idle other).after others).effects := by
  have same : (idle state).unobserved = (idle other).unobserved :=
    congrArg idle (unobserved_of_new begins also)
  obtain ⟨courses, lasts⟩ := course_of_unobserved same operations rfl blind
  exact ⟨courses, effects_of_unobserved lasts⟩

/-- A view whose pending evaluation is given up when the view is destroyed, on a bus for one event
that nobody follows and on a bus for a hundred that two streams follow for a while. -/
theorem indifference_of_streams :
    let config : Config := { Config.bare with web := true }
    let begun (size : Nat) : Except BridgeError State :=
      State.new { config with bufferSize := size } .none .none Complaint.silent
    let state : State := (begun 1).toOption.get rfl
    let other : State := (begun 100).toOption.get rfl
    let operations : List Turn := [.begin (.createView "page"), .proceed,
      .begin (.evaluate "page" "1" "first" [] .returns), .proceed,
      .begin (.destroy "page"), .proceed, .proceed, .proceed, .proceed, .proceed]
    let watched : List Turn := [.observe (.subscribe "all" []), .begin (.createView "page"),
      .observe (.subscribe "views" [.kind .lifecycle]), .proceed, .observe (.receive "views"),
      .begin (.evaluate "page" "1" "first" [] .returns), .proceed,
      .begin (.destroy "page"), .proceed, .observe (.dropStream "views"), .proceed, .proceed,
      .observe (.receive "all"), .proceed, .proceed, .observe (.receive "all")]
    begun 1 = .ok state ∧ begun 100 = .ok other ∧
      operations.filter Turn.operates = watched.filter Turn.operates ∧
      (∀ visited ∈ (idle state).course operations, visited.observes = false) ∧
      ((idle state).after operations).effects.seen.length = 4 ∧
      ((idle state).course operations).map effects = ((idle other).course watched).map effects ∧
      ((idle state).after operations).effects = ((idle other).after watched).effects := by
  intro config begun state other operations watched
  have narrow : begun 1 = .ok state := rfl
  have wide : begun 100 = .ok other := rfl
  have same : operations.filter Turn.operates = watched.filter Turn.operates := rfl
  have blind : ∀ visited ∈ (idle state).course operations, visited.observes = false := by
    decide +kernel
  have seen : ((idle state).after operations).effects.seen.length = 4 := by decide +kernel
  exact ⟨narrow, wide, same, blind, seen, indifference narrow wide same blind⟩

end Machine

end HostBridge.Session
