import HostBridge.Proofs.Session.Keeping
import HostBridge.Proofs.Session.Origin
import HostBridge.Proofs.Session.Registration

/-!
# What becomes of continuations

A continuation that is parked for the result of a script is called with the first result that is
routed for its id, dropped when its view is gone, and parked until then.  Its view is gone when its
destruction has ended: while the engine still releases the instance, a result may come in through
another view.

Main statement: in every run the continuations are where the tickets of its history say they are
(`Run.continuation`).
-/

namespace HostBridge.Session

/-- What a continuation is told of the value that a payload has for the result. -/
inductive Converts : Option Json → Option String → Prop where
  | absent : Converts none none
  | null : Converts (some .null) none
  | text (s : String) : Converts (some (.string s)) (some s)
  | other {value : Json} (nonnull : value ≠ .null) (untexted : ∀ s, value ≠ .string s) :
      Converts (some value) (some value.render)

/-- A result is converted as the handler of script results converts it. -/
theorem converts_iff {payload : Json} {result : Option String} :
    Converts (payload.get? "result") result ↔ scriptResult payload = result := by
  unfold scriptResult
  cases payload.get? "result" with
  | none =>
      constructor
      · rintro ⟨⟩
        rfl
      · rintro rfl
        exact .absent
  | some value => cases value with
    | null =>
        constructor
        · intro converts
          cases converts with
          | null => rfl
          | other nonnull untexted => exact absurd rfl nonnull
        · rintro rfl
          exact .null
    | string s =>
        constructor
        · intro converts
          cases converts with
          | text s => rfl
          | other nonnull untexted => exact absurd rfl (untexted s)
        · rintro rfl
          exact .text s
    | _ =>
        constructor
        · intro converts
          cases converts with
          | other nonnull untexted => rfl
        · rintro rfl
          exact .other (fun same => nomatch same) fun _ same => nomatch same

namespace Machine

variable (machine : Machine)

/-- A machine routes a result: it delivers a well-formed result event to the view that is registered
under the id of the event. -/
structure Routes (inbound : Inbound) (payload : Json) (key : ObjectKey) (id : CallbackId)
    (result : Option String) : Prop where
  delivers : ∃ whom, machine.mode = .perform (.deliver whom inbound.method inbound.payload) ∧
    inbound.objectId = addressee machine.state whom
  method : InboundMethod.ofName? inbound.method = some .evaluateResult
  found : machine.state.context.registry.lookup machine.state.context.alive inbound.objectId =
    some key
  read : inbound.value? = some payload
  named : (payload.get? "callbackId").bind CallbackId.ofJson? = some id
  converts : Converts (payload.get? "result") result

/-- An answer is done exactly when a delivery is routed to its id. -/
theorem answer_mem_deeds_iff {key : ObjectKey} {id : CallbackId} {result : Option String} :
    .answer key id result ∈ machine.deeds ↔
      ∃ inbound payload, machine.Routes inbound payload key id result := by
  constructor
  · intro done
    rcases action_of_mem_deeds done with ⟨action, performs, done⟩ | ⟨_, retires⟩
    · rcases machine.state.quiet_of_mem_deeds done rfl with
        ⟨name, continuation, member⟩ | ⟨whom, method, text, rfl, member⟩ | ⟨slot, polls⟩
      · obtain ⟨_, invokes⟩ | ⟨_, _, _, evaluates⟩ := machine.state.mem_evaluating member
        · cases invokes
        · cases evaluates
      · obtain ⟨_, payload, _, found, read, reports, named, answers⟩ :=
          machine.state.mem_answering_iff.mp member
        cases answers
        have converts : Converts (payload.get? "result") (scriptResult payload) :=
          converts_iff.mpr rfl
        exact ⟨_, payload, ⟨whom, performs, rfl⟩, reports, found, read, named, converts⟩
      · cases polls
    · cases retires
  · rintro ⟨inbound, payload, ⟨whom, delivers, addressed⟩, method, found, read, named, converts⟩
    have same : inbound = ⟨addressee machine.state whom, inbound.method, inbound.payload⟩ := by
      rw [← addressed]
    have answers := machine.state.mem_answering_iff.mpr
      ⟨key, payload, id, found, read, method, named, rfl⟩
    rw [converts_iff.mp converts, same] at answers
    simp only [deeds, delivers]
    exact answers

/-- A script is evaluated for a view; its call is taken unless the view was destroyed or the engine
fails. -/
theorem sent_of_mem_deeds {key : ObjectKey} {id : CallbackId}
    {continuation : Option (Continuation Action)} {sent : Bool}
    (done : .evaluate key id continuation sent ∈ machine.deeds) :
    ∃ view, machine.state.context.view? key = some view ∧
      (sent = true ↔ view.isDestroyed = false ∧ machine.state.web.failure = none) := by
  rcases action_of_mem_deeds done with ⟨action, performs, done⟩ | ⟨_, retires⟩
  · rcases machine.state.quiet_of_mem_deeds done rfl with
      ⟨name, other, member⟩ | ⟨_, _, _, _, member⟩ | ⟨slot, polls⟩
    · obtain ⟨_, invokes⟩ | ⟨_, view, found, evaluates⟩ := machine.state.mem_evaluating member
      · cases invokes
      · cases evaluates
        refine ⟨view, found, ?_⟩
        rw [Bool.and_eq_true, Bool.not_eq_true', Option.isNone_iff_eq_none]
    · obtain ⟨_, _, _, _, _, _, _, answers⟩ := machine.state.mem_answering_iff.mp member
      cases answers
    · cases polls
  · cases retires

end Machine

/-- The continuations of a session are where the tickets of its history say they are. -/
structure Accounts (deeds : List Deed) (machine : Machine) : Prop where
  ids : ((tickets deeds).map Ticket.id).Nodup
  /-- Continuations that have a name were called and dropped as their tickets say, each at most
  once. -/
  settled : (machine.state.seen.filter Sighting.isSettlement).Perm
    ((tickets deeds).filterMap Ticket.sighting?)
  /-- Each of the others has a slot that shows what became of it. -/
  slots : ∀ ticket ∈ tickets deeds, ∀ key, ticket.slot? = some key →
    ∃ slot, machine.state.slots.find? key = some slot ∧
      ticket.fate.Shows (.poll key ∈ deeds) slot
  slotKeys : ((tickets deeds).filterMap Ticket.slot?).Nodup
  /-- The table holds the continuations of the parked tickets under their ids, and no others. -/
  parked : ∀ id continuation,
    machine.state.context.callbacks.parked.find? id = some continuation ↔
      ∃ ticket ∈ tickets deeds, ticket.id = ⟨id⟩ ∧ ticket.continuation = continuation ∧
        ticket.fate = .parked
  pending : machine.state.context.pendingCallbacks =
    (tickets deeds).countP (fun ticket => ticket.fate = .parked)
  /-- A parked ticket is tracked by its own view, which is undestroyed or still being torn down. -/
  tracked : ∀ ticket ∈ tickets deeds, ticket.fate = .parked →
    ∃ view, machine.state.context.view? ticket.view = some view ∧ ticket.id ∈ view.pending ∧
      (view.isDestroyed = false ∨ ticket.view ∈ machine.releasing)

namespace Core.Keeps

/-- As many continuations are parked as tickets. -/
theorem size {core : Core} {polled : Nat → Prop} {tickets : List Ticket}
    (keeps : core.Keeps polled tickets) :
    core.callbacks.parked.size = tickets.countP (fun ticket => ticket.fate = .parked) := by
  -- The keys of the table and the ids of the parked tickets are the same, both without repetition.
  let waiting := tickets.filter (fun ticket => ticket.fate = .parked)
  have nodup : (waiting.map (·.id.value)).Nodup := by
    have ids : (waiting.map Ticket.id).Nodup := keeps.ids.sublist (List.filter_sublist.map _)
    have values : ((waiting.map Ticket.id).map CallbackId.value).Nodup :=
      ids.map fun left right same => congrArg CallbackId.mk same
    rwa [List.map_map] at values
  have listed : ∀ id, id ∈ core.callbacks.parked.keys ↔ id ∈ waiting.map (·.id.value) := by
    intro id
    rw [Table.mem_keys_iff, Option.isSome_iff_exists, List.mem_map]
    constructor
    · rintro ⟨continuation, found⟩
      obtain ⟨ticket, member, named, _, parked⟩ := (keeps.parked id continuation).mp found
      have kept : ticket ∈ waiting := List.mem_filter.mpr ⟨member, decide_eq_true parked⟩
      exact ⟨ticket, kept, congrArg CallbackId.value named⟩
    · rintro ⟨ticket, kept, rfl⟩
      obtain ⟨member, parked⟩ := List.mem_filter.mp kept
      exact ⟨_, keeps.find?_of_parked member (of_decide_eq_true parked)⟩
  have same := (List.perm_ext_iff_of_nodup (Table.nodup_keys _) nodup).mpr listed
  have counted := same.length_eq
  rw [Table.keys, List.length_map, List.length_map] at counted
  rw [List.countP_eq_length_filter]
  exact counted

end Core.Keeps

namespace Run

variable {visited : List Machine} {machine : Machine}

/-- The continuations of every run are where its tickets say they are. -/
theorem accounts (run : Run visited machine)
    (unspent : (history visited).countP Deed.isEvaluation < UInt64.size) :
    Accounts (history visited) machine := by
  have reached := run.reached_unruled
  obtain ⟨keeps, issues⟩ := reached.keeps unspent
  refine ⟨keeps.ids, keeps.settled, keeps.slots, keeps.slotKeys, keeps.parked, keeps.size, ?_⟩
  intro ticket member parked
  obtain ⟨bare, listed, waits, state⟩ := keeps.awaits issues reached.tracked member parked
  have mapped := (machine.state.find?_core machine.releasing ticket.view).symm.trans listed
  obtain ⟨view, found, rfl⟩ := Option.map_eq_some_iff.mp mapped
  exact ⟨view, found, waits, state⟩

/-- In every run each continuation is called at most once, with the first result that is routed for
its id before its view is gone; it is dropped if its call was not taken, or when its view is gone,
and parked until then, in the table and with its own view, which is undestroyed between two actions.
The bound says that the counter of ids has not come around. -/
theorem continuation (run : Run visited machine)
    (unspent : (history visited).countP Deed.isEvaluation < UInt64.size) :
    Accounts (history visited) machine ∧
      (machine.reply?.isSome → ∀ ticket ∈ tickets (history visited), ticket.fate = .parked →
        ∃ view, machine.state.context.view? ticket.view = some view ∧ ticket.id ∈ view.pending ∧
          view.isDestroyed = false) ∧
      (∀ key id result, .answer key id result ∈ machine.deeds ↔
        ∃ inbound payload, machine.Routes inbound payload key id result) ∧
      (∀ key id result, .answer key id result ∈ machine.deeds →
        ∃ view, machine.state.context.view? key = some view ∧ view.isDestroyed = false) ∧
      (∀ key id continuation sent, .evaluate key id continuation sent ∈ machine.deeds →
        ∃ view, machine.state.context.view? key = some view ∧
          (sent = true ↔ view.isDestroyed = false ∧ machine.state.web.failure = none)) := by
  have accounts := run.accounts unspent
  refine ⟨accounts, ?_, fun _ _ _ => machine.answer_mem_deeds_iff, ?_,
    fun _ _ _ _ => machine.sent_of_mem_deeds⟩
  · -- Between two actions nothing is being torn down.
    intro idle ticket member parked
    obtain ⟨view, found, waits, state⟩ := accounts.tracked ticket member parked
    refine ⟨view, found, waits, state.resolve_right ?_⟩
    rw [machine.releasing_of_idle idle]
    exact List.not_mem_nil
  · intro key id result member
    obtain ⟨inbound, payload, routes⟩ := machine.answer_mem_deeds_iff.mp member
    obtain ⟨view, found, _, living⟩ := run.view_of_lookup routes.found
    exact ⟨view, found, living⟩

/-- A view that evaluates two scripts, gets the result of one and is destroyed. -/
theorem continuation_of_result : ∃ visited machine, machine.reply?.isSome ∧
    Accounts (history visited) machine ∧
      (tickets (history visited)).map Ticket.fate = [.called (some "done"), .dropped] ∧
      machine.state.context.pendingCallbacks = 0 := by
  have created := Run.step (.start State.new_withWeb (.createView "page"))
  have first := (created.next rfl (.evaluate "page" "1" "first" [] .returns)).step
  have second := (first.next rfl (.evaluate "page" "2" "second" [] .returns)).step
  have answered := (second.next rfl (.deliver ⟨some "page", 0⟩ "onEvaluateJavascriptResult"
    "\x7b\"callbackId\":1,\"result\":\"done\"\x7d")).step.step.step.step.step
  have destroyed := (answered.next (by decide +kernel) (.destroy "page")).step.step.step.step.step
  refine ⟨_, _, ?_, (destroyed.continuation ?_).1, ?_, ?_⟩
  · decide +kernel
  · decide +kernel
  · decide +kernel
  · decide +kernel

end Run

end HostBridge.Session
