import HostBridge.Proofs.Session.Airing
import HostBridge.Proofs.Session.History

/-!
# What the streams of a session find

To the streams on its bus a session is a session with a bus and nothing else: a transition announces
events, subscribes a stream or drains one.  What was put on the bus is therefore what its streams
find.

Main statements: a transition is some steps on the bus, which touch no stream but the one that the
action is about (`Machine.plays_step`); in every run a stream that is there has the end of all that
was put on the bus before it (`Run.attended`), so it finds whatever is aired (`Run.finds`), and a
stream that is drained gives just what was put on the bus since it was subscribed or last drained
(`Run.drained_since`).
-/

namespace HostBridge.Session

open BusSession (Command Answer)

/-- An action concerns a stream when it subscribes it or drains it. -/
theorem Action.stream?_eq_some_iff {action : Action} {name : String} :
    action.stream? = some name ↔
      (∃ filters, action = .subscribe name filters) ∨ action = .drain name := by
  cases action <;> simp [Action.stream?]

namespace State

variable {state : State}

/-- Subscribing in a session is subscribing on its bus. -/
theorem air_subscribe (owned : state.context.bus.owners ≠ 0) (name : String)
    (filters : List EventFilter) :
    (state.subscribe name filters).1.air = (state.air.perform (.subscribe name filters)).1 := by
  have performed : state.air.perform (.subscribe name filters) =
      ((state.subscribe name filters).1.air,
        .count (state.subscribe name filters).1.context.bus.subscribers) := if_neg owned
  rw [performed]

/-- Draining in a session is draining on its bus. -/
theorem air_drain (state : State) (name : String) :
    (state.drain name).1.air = (state.air.perform (.drain name)).1 := by
  rw [BusSession.perform_drain, BusSession.reading, State.drain]
  dsimp only [State.air]
  cases state.streams.find? name with
  | none => rfl
  | some stream => rfl

/-- A drain gives what the stream finds on the bus. -/
theorem answer_drain {name : String} {stream : Stream} {backlog : List Event}
    (follows : state.air.Follows name stream backlog) :
    (state.drain name).2 = .items (state.context.bus.drained stream.accepts backlog) := by
  have found : state.streams.find? name = some stream := follows.found
  rw [State.drain, found]
  exact congrArg (Reply.items ·.1) (Stream.drain_eq_drained follows.owes)

end State

namespace Machine

variable (machine : Machine)

/-- The next transition subscribes a stream, or drains it. -/
def Regards (name : String) : Prop :=
  ∃ action, machine.mode = .perform action ∧ action.stream? = some name

/-- A transition is some steps on the bus, which spare every stream that it is not about. -/
theorem plays_step (owned : machine.state.context.bus.owners ≠ 0) : ∃ commands,
    machine.step.state.air = machine.state.air.steps commands ∧
      machine.step.state.context.bus.owners = machine.state.context.bus.owners ∧
        ∀ name, ¬ machine.Regards name → ∀ command ∈ commands, command.Spares name := by
  by_cases regards : ∃ name, machine.Regards name
  · obtain ⟨name, action, performs, about⟩ := regards
    have other {reader : String} (unregarded : ¬ machine.Regards reader) : name ≠ reader := by
      rintro rfl
      exact unregarded ⟨action, performs, about⟩
    rw [step_of_performs performs]
    -- Subscribing and draining are commands of the bus.
    rcases Action.stream?_eq_some_iff.mp about with ⟨filters, rfl⟩ | rfl
    · refine ⟨[.subscribe name filters], State.air_subscribe owned name filters, ?_, ?_⟩
      · exact (congrArg (·.bus.owners) (State.air_subscribe owned name filters)).trans
          (BusSession.owners_subscribe _ _ _)
      · intro reader unregarded
        exact List.forall_mem_singleton.mpr
          (BusSession.subscribe_spares (other unregarded) filters)
    · refine ⟨[.drain name], machine.state.air_drain name, ?_, ?_⟩
      · exact congrArg Bus.owners ((congrArg BusSession.bus (machine.state.air_drain name)).trans
          (BusSession.bus_drain _ _))
      · intro reader unregarded
        exact List.forall_mem_singleton.mpr (BusSession.drain_spares (other unregarded))
  · have apart (action : Action) (performs : machine.mode = .perform action) :
        action.stream? = none :=
      Option.eq_none_iff_forall_ne_some.mpr fun name about =>
        regards ⟨name, action, performs, about⟩
    -- Any other transition airs events, which are emissions on the bus.
    obtain ⟨events, bus, streams⟩ := machine.airs_step apart
    refine ⟨events.map .emit, ?_, ?_, ?_⟩
    · rw [(BusSession.steps_emit owned events).1]
      exact congrArg₂ BusSession.mk bus streams
    · rw [bus, (Bus.same_announceAll _ events).2]
    · intro name _ command emits
      obtain ⟨event, _, rfl⟩ := List.mem_map.mp emits
      exact BusSession.emit_spares event name

end Machine

/-- A new session has a bus of its own and no streams. -/
theorem State.new_air {config : Config} {images : Images} {channel : ChannelKind}
    {complain : Complaint} {state : State}
    (created : State.new config images channel complain = .ok state) :
    BusSession.new config.bufferSize = .ok state.air ∧ state.context.bus.owners ≠ 0 := by
  unfold State.new Context.new at created
  cases valid : config.validate with
  | error error =>
      rw [valid] at created
      cases created
  | ok accepted =>
      rw [valid] at created
      cases created
      refine ⟨if_neg fun empty => ?_, Nat.one_ne_zero⟩
      rw [Config.validate, if_pos empty] at valid
      cases valid

namespace Run

variable {visited : List Machine} {machine : Machine}

/-- What happens on the bus of a session are steps of a session with a bus. -/
theorem plays (run : Run visited machine) : ∃ capacity opened commands,
    BusSession.new capacity = .ok opened ∧ machine.state.air = opened.steps commands ∧
      machine.state.context.bus.owners ≠ 0 := by
  induction run with
  | start created action =>
      obtain ⟨opened, owned⟩ := State.new_air created
      exact ⟨_, _, [], opened, rfl, owned⟩
  | step run ih =>
      obtain ⟨capacity, opened, commands, new, played, owned⟩ := ih
      obtain ⟨more, steps, same, _⟩ := Machine.plays_step _ owned
      refine ⟨capacity, opened, commands ++ more, new, ?_, same ▸ owned⟩
      rw [steps, played, BusSession.steps_append]
  | next run idle action ih => exact ih

/-- Over every run the bus keeps a publisher. -/
theorem owned (run : Run visited machine) : machine.state.context.bus.owners ≠ 0 := by
  obtain ⟨_, _, _, _, _, owned⟩ := run.plays
  exact owned

/-- The subscribers on the bus of a session are its streams. -/
theorem sound (run : Run visited machine) : machine.state.air.Sound := by
  obtain ⟨capacity, opened, commands, new, played, _⟩ := run.plays
  rw [played]
  exact (BusSession.Sound.of_new new).steps commands

/-- A stream has the end of all that was put on the bus before it. -/
theorem attended (run : Run visited machine) : machine.state.air.Attended := by
  obtain ⟨capacity, opened, commands, new, played, _⟩ := run.plays
  rw [played]
  exact (BusSession.Attended.of_new new).steps (.of_new new) commands

end Run

/-! ### What a stream finds -/

/-- Each stream finds what was aired, and nothing else, once it has found what was there before. -/
def State.Finds (before : State) (events : List Event) (after : State) : Prop :=
  ∀ name stream, before.streams.find? name = some stream →
    after.streams.find? name = some stream ∧
      ((stream.drain before.context.bus).2.drain after.context.bus).1 =
        after.context.bus.drained stream.accepts events

/-- In every run what is aired is what each stream finds. -/
theorem Run.finds {visited : List Machine} {machine : Machine} (run : Run visited machine)
    {events : List Event} {after : State} (airs : machine.state.Airs events after) :
    machine.state.Finds events after := by
  intro name stream found
  obtain ⟨backlog, follows, _⟩ := run.attended name stream found
  refine ⟨(congrArg (·.find? name) airs.streams).trans found, ?_⟩
  rw [airs.bus]
  exact follows.owes.drain_again (run.sound.heard follows) events

/-- A session goes on from a machine through others to one that it comes to. -/
inductive GoesOn (first : Machine) : List Machine → Machine → Prop where
  | refl : GoesOn first [] first
  | step {later : List Machine} {machine : Machine} (goes : GoesOn first later machine) :
      GoesOn first (later ++ [machine]) machine.step
  | next {later : List Machine} {machine : Machine} (goes : GoesOn first later machine)
      (idle : machine.reply?.isSome) (action : Action) :
      GoesOn first (later ++ [machine]) (Machine.start machine.state action)

/-- A run that goes on is a run. -/
theorem Run.onward {earlier later : List Machine} {first machine : Machine}
    (run : Run earlier first) (goes : GoesOn first later machine) :
    Run (earlier ++ later) machine := by
  induction goes with
  | refl => rwa [List.append_nil]
  | step goes ih =>
      rw [← List.append_assoc]
      exact ih.step
  | next goes idle action ih =>
      rw [← List.append_assoc]
      exact ih.next idle action

/-- While nobody subscribes or drains a stream, whatever is put on the bus joins its backlog. -/
theorem GoesOn.spared {earlier later : List Machine} {first machine : Machine} {name : String}
    (run : Run earlier first) (goes : GoesOn first later machine)
    (spared : ∀ between ∈ later, ¬ between.Regards name) : ∃ events,
      machine.state.context.bus.emitted = first.state.context.bus.emitted ++ events ∧
        machine.state.streams.find? name = first.state.streams.find? name ∧
          ∀ stream backlog, first.state.air.Follows name stream backlog →
            machine.state.air.Follows name stream (backlog ++ events) := by
  induction goes with
  | refl =>
      refine ⟨[], (List.append_nil _).symm, rfl, fun stream backlog follows => ?_⟩
      rwa [List.append_nil]
  | @step later machine goes ih =>
      obtain ⟨before, here⟩ := List.forall_mem_append.mp spared
      obtain ⟨events, emitted, found, follows⟩ := ih before
      have reached := run.onward goes
      obtain ⟨commands, played, _, spares⟩ := machine.plays_step reached.owned
      have spares := spares name (here machine List.mem_cons_self)
      have told : machine.step.state.context.bus.emitted = _ :=
        congrArg (·.bus.emitted) played
      rw [BusSession.emitted_steps] at told
      refine ⟨events ++ machine.state.air.emissions commands, ?_, ?_, ?_⟩
      · rw [← List.append_assoc, ← emitted]
        exact told
      · rw [← found]
        exact (congrArg (·.streams.find? name) played).trans
          (machine.state.air.find?_steps_of_spared spares)
      · intro stream backlog at_first
        rw [played, ← List.append_assoc]
        exact (follows stream backlog at_first).spared_steps reached.sound spares
  | next goes idle action ih =>
      exact ih fun between member => spared between (List.mem_append_left _ member)

/-- A stream that was just subscribed or drained has nothing to show. -/
theorem Run.follows_of_regards {earlier : List Machine} {first : Machine} {name : String}
    {stream : Stream} (run : Run earlier first) (regards : first.Regards name)
    (found : first.step.state.streams.find? name = some stream) :
    first.step.state.air.Follows name stream [] := by
  obtain ⟨action, performs, about⟩ := regards
  rw [Machine.step_of_performs performs] at found ⊢
  rcases Action.stream?_eq_some_iff.mp about with ⟨filters, rfl⟩ | rfl
  · have same := State.air_subscribe run.owned name filters
    have follows := BusSession.Follows.subscribe run.sound run.owned name filters
    have found : (first.state.subscribe name filters).1.air.streams.find? name = some stream := found
    have whole : (first.perform (.subscribe name filters)).state.air = _ := same
    rw [whole]
    rw [same] at found
    obtain rfl := Option.some.inj (follows.found.symm.trans found)
    exact follows
  · have same := first.state.air_drain name
    have found : (first.state.drain name).1.air.streams.find? name = some stream := found
    have whole : (first.perform (.drain name)).state.air = _ := same
    rw [whole]
    rw [same] at found
    -- A drain brings no stream, so the one that is there was there before.
    cases present : first.state.streams.find? name with
    | none =>
        have absent : (first.state.air.perform (.drain name)).1.streams.find? name = none :=
          BusSession.find?_perform_of_absent present nofun
        cases absent.symm.trans found
    | some reader =>
        obtain ⟨backlog, follows, _⟩ := run.attended name reader present
        obtain ⟨_, serves⟩ := follows.drain
        obtain rfl := Option.some.inj (serves.follows.found.symm.trans found)
        exact serves.follows

/-- A stream that is drained gives just what was put on the bus since it was subscribed or last
drained, as far as the bus kept it. -/
theorem Run.drained_since {earlier later : List Machine} {first machine : Machine}
    {name : String} {stream : Stream} (run : Run earlier first) (regards : first.Regards name)
    (goes : GoesOn first.step later machine)
    (spared : ∀ between ∈ later, ¬ between.Regards name)
    (found : machine.state.streams.find? name = some stream) : ∃ events,
      machine.state.context.bus.emitted = first.step.state.context.bus.emitted ++ events ∧
        (machine.state.drain name).2 =
          .items (machine.state.context.bus.drained stream.accepts events) := by
  obtain ⟨events, emitted, same, follows⟩ := goes.spared run.step spared
  have fresh := run.follows_of_regards regards (same.symm.trans found)
  exact ⟨events, emitted, State.answer_drain (follows stream [] fresh)⟩

end HostBridge.Session
