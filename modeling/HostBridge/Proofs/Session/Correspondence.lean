import HostBridge.Proofs.Message
import HostBridge.Proofs.Session.Atomicity
import HostBridge.Proofs.Session.Continuation
import HostBridge.Proofs.Session.Delivery

/-!
# Ids across the engine

A script is handed to the engine with the id that its continuation is parked under, and the page
sends the id back with the result, in whatever form it likes to write numbers.  The engine is handed
exactly the arguments of a call, and an echo of the id calls exactly the continuation of the call.

Main statements: a call to a view that was not destroyed reaches the engine (`Machine.sends`), a
delivery calls only what waits under an id that it echoes (`Machine.Delivers.callsOnly`), and in
every run the ids that the engine was handed are those that come back (`Run.correspondence`).
-/

namespace HostBridge.Session

/-- The view that an action calls and the call that is made; the id is the one for a script. -/
def Action.outbound? (id : CallbackId) : Action → Option (String × Outbound)
  | .loadUrl view url headers => some (view, .loadUrl url headers)
  | .loadData view data baseUrl mimeType encoding historyUrl =>
    some (view, .loadData baseUrl data mimeType encoding historyUrl)
  | .run view script => some (view, .evaluate script id)
  | .evaluate view script _ _ _ => some (view, .evaluate script id)
  | .evaluateLater view script _ => some (view, .evaluate script id)
  | .addInterface view name _ => some (view, .addInterface name)
  | _ => none

/-- The continuation that an action has for the result of its script; the slot is the next one. -/
def Action.continuation? (slot : Nat) : Action → Option (Continuation Action)
  | .evaluate _ _ name steps ending => some (.reaction name steps ending)
  | .evaluateLater _ _ _ => some (.slot slot)
  | _ => none

namespace State

/-! ### Calls -/

/-- The engine sees a call, and nothing else is seen but continuations that are dropped. -/
def Sends (before after : State) (address : UInt64) (call : Outbound) : Prop :=
  ∃ dropped : List String, after.seen = before.seen ++
    .webInvoke address call.method call.payload.render :: dropped.map Sighting.abandoned

section Calls

variable (state : State) {name : String} {key : ObjectKey} {view : View Action}

/-- An invocation is seen with its method and its payload as it is printed. -/
theorem seen_invoke (living : view.isDestroyed = false) (call : Outbound) :
    (state.invoke view call).1.seen =
      state.seen ++ [.webInvoke view.handle.address call.method call.payload.render] := by
  simp only [invoke, Context.outbound, living, Bool.false_eq_true, ↓reduceIte]
  split
  · rfl
  · rfl

/-- A call of a living view sends that call to its address. -/
theorem sends_call (named : state.view? name = some (key, view))
    (living : view.isDestroyed = false) (call : Outbound) :
    state.Sends (state.call name call).1 view.handle.address call := by
  rw [State.call, named]
  exact ⟨[], seen_invoke state living call⟩

/-- Adding an interface sends its name to the address of the view. -/
theorem sends_addInterface (named : state.view? name = some (key, view))
    (living : view.isDestroyed = false) (interface : String) (target : ScriptTarget Action) :
    state.Sends (state.addInterface name interface target).1 view.handle.address
      (.addInterface interface) := by
  rw [addInterface, named]
  exact ⟨[], seen_invoke _ living _⟩

/-- An evaluation sends its script with the id that was issued for it. -/
theorem sends_evaluate (found : state.context.view? key = some view)
    (living : view.isDestroyed = false) (script : String)
    (continuation : Option (Continuation Action)) :
    state.Sends (state.evaluate key script continuation).1 view.handle.address
      (.evaluate script ⟨state.context.callbacks.issued + 1⟩) := by
  obtain ⟨tracked, listed, same⟩ := view?_issuing state found continuation
  have destroyed : tracked.isDestroyed = false := (congrArg Handle.isReleased same).trans living
  have seen := (state.issuing key continuation).seen_invoke destroyed
    (.evaluate script ⟨state.context.callbacks.issued + 1⟩)
  rw [same] at seen
  rw [evaluate_eq state script continuation listed]
  split
  · exact ⟨[], seen⟩
  · -- The call failed, so its continuation is dropped.
    obtain ⟨slots, names, dropped⟩ := exists_abandonAll _ _
    rw [dropped]
    refine ⟨names, (congrArg (· ++ names.map Sighting.abandoned) seen).trans ?_⟩
    rw [List.append_assoc]
    rfl

theorem sends_evaluateOn (named : state.view? name = some (key, view))
    (living : view.isDestroyed = false) (script : String)
    (continuation : Option (Continuation Action)) :
    state.Sends (state.evaluateOn name script continuation).1 view.handle.address
      (.evaluate script ⟨state.context.callbacks.issued + 1⟩) := by
  have found := (state.view?_eq_some_iff.mp named).2
  rw [evaluateOn, named]
  exact state.sends_evaluate found living script continuation

theorem sends_evaluateLater (named : state.view? name = some (key, view))
    (living : view.isDestroyed = false) (script slot : String) :
    state.Sends (state.evaluateLater name script slot).1 view.handle.address
      (.evaluate script ⟨state.context.callbacks.issued + 1⟩) := by
  have found : state.openingSlot.context.view? key = some view :=
    (state.view?_eq_some_iff.mp named).2
  obtain ⟨dropped, seen⟩ :=
    state.openingSlot.sends_evaluate found living script (some (.slot state.nextSlot))
  refine ⟨dropped, ?_⟩
  rw [evaluateLater, named]
  dsimp only
  split
  next evaluated => exact (congrArg (·.1.seen) evaluated).symm.trans seen
  next evaluated => exact (congrArg (·.1.seen) evaluated).symm.trans seen

end Calls

/-! ### Results -/

/-- A continuation is called with a result, and nothing else that is parked is touched. -/
structure Resolves (before : State) (id : CallbackId) (continuation : Continuation Action)
    (result : Option String) (after : State) : Prop where
  parked : after.context.callbacks.parked = before.context.callbacks.parked.erase id.value
  called : ∀ name steps ending, continuation = .reaction name steps ending →
    after.seen = before.seen ++ [.continued name result] ∧ after.slots = before.slots
  filled : ∀ slot, continuation = .slot slot →
    after.seen = before.seen ∧ after.slots = before.slots.insert slot (.filled result)

/-- No continuation is called but as allowed. -/
def CallsOnly (allowed : String → Option String → Prop) (before after : State) : Prop :=
  ∃ seen, after.seen = before.seen ++ seen ∧
    ∀ name result, .continued name result ∈ seen → allowed name result

/-- Where nothing was seen nothing was called. -/
theorem CallsOnly.of_seen {allowed : String → Option String → Prop} {before after : State}
    (same : after.seen = before.seen) : CallsOnly allowed before after :=
  ⟨[], same.trans (List.append_nil _).symm, fun _ _ member => absurd member List.not_mem_nil⟩

end State

namespace Machine

variable {machine : Machine}

/-- A call to a view that was not destroyed reaches the engine. -/
theorem sends {action : Action} {name : String} {call : Outbound} {key : ObjectKey}
    {view : View Action} (performs : machine.mode = .perform action)
    (calls : action.outbound? ⟨machine.state.context.callbacks.issued + 1⟩ = some (name, call))
    (named : machine.state.view? name = some (key, view)) (living : view.isDestroyed = false) :
    machine.state.Sends machine.step.state view.handle.address call := by
  rw [step_of_performs performs]
  cases action with
  | loadUrl other url headers =>
      cases calls
      exact machine.state.sends_call named living _
  | loadData other data baseUrl mimeType encoding historyUrl =>
      cases calls
      exact machine.state.sends_call named living _
  | run other script =>
      cases calls
      exact machine.state.sends_evaluateOn named living script none
  | evaluate other script label body ending =>
      cases calls
      exact machine.state.sends_evaluateOn named living script _
  | evaluateLater other script slot =>
      cases calls
      exact machine.state.sends_evaluateLater named living script slot
  | addInterface other interface target =>
      cases calls
      exact machine.state.sends_addInterface named living interface target
  | _ => cases calls

/-- A machine delivers the result of a script to a registered view; `echo` is the value in it that
is to name the id. -/
structure Returns (machine : Machine) (inbound : Inbound) (payload echo : Json) : Prop where
  delivers : machine.Delivers inbound
  method : inbound.method = InboundMethod.evaluateResult.name
  listed : ∃ key,
    machine.state.context.registry.lookup machine.state.context.alive inbound.objectId = some key
  reads : Json.Reads inbound.payload payload
  member : payload.get? "callbackId" = some echo

variable {inbound : Inbound} {payload : Json} {id : CallbackId}

/-- A result that echoes an id is routed to it. -/
theorem Returns.routes {echo : Json} (returns : machine.Returns inbound payload echo)
    (echoes : id.Echoes echo) :
    ∃ key, machine.Routes inbound payload key id (scriptResult payload) := by
  obtain ⟨key, listed⟩ := returns.listed
  refine ⟨key, returns.delivers, InboundMethod.ofName?_eq_some_iff.mpr returns.method.symm, listed,
    Inbound.value?_eq_some_iff.mpr returns.reads, ?_, converts_iff.mpr rfl⟩
  rw [returns.member]
  exact CallbackId.ofJson?_eq_some_iff_echoes.mpr echoes

/-- A result that is routed to an id echoes it. -/
theorem Routes.returns {key : ObjectKey} {result : Option String}
    (routes : machine.Routes inbound payload key id result) :
    ∃ echo, machine.Returns inbound payload echo ∧ id.Echoes echo := by
  obtain ⟨echo, member, read⟩ := Option.bind_eq_some_iff.mp routes.named
  have method := (InboundMethod.ofName?_eq_some_iff.mp routes.method).symm
  have reads : Json.Reads inbound.payload payload := Inbound.value?_eq_some_iff.mp routes.read
  exact ⟨echo, ⟨routes.delivers, method, ⟨key, routes.found⟩, reads, member⟩,
    CallbackId.ofJson?_eq_some_iff_echoes.mp read⟩

/-- A result that names a parked id resolves it. -/
theorem resolves_handlingResult (machine : Machine) (key : ObjectKey) (view : View Action)
    (named : (payload.get? "callbackId").bind CallbackId.ofJson? = some id)
    {continuation : Continuation Action}
    (parked : machine.state.context.callbacks.parked.find? id.value = some continuation) :
    machine.state.Resolves id continuation (scriptResult payload)
      (machine.handlingResult key view payload).state := by
  have taken : machine.state.context.takeCallback key id =
      ((machine.state.taking key id).context, some continuation) := by
    rw [← parked]
    rfl
  unfold handlingResult
  rw [named]
  dsimp only
  rw [taken]
  cases continuation with
  | slot slot =>
      refine ⟨rfl, fun _ _ _ => (nomatch ·), ?_⟩
      rintro _ ⟨⟩
      exact ⟨rfl, rfl⟩
  | reaction name steps ending =>
      refine ⟨rfl, ?_, fun _ => (nomatch ·)⟩
      rintro _ _ _ ⟨⟩
      exact ⟨rfl, rfl⟩

/-- A result that is routed calls what is parked under its id. -/
theorem Routes.resolves {key : ObjectKey} {result : Option String}
    (routes : machine.Routes inbound payload key id result) {continuation : Continuation Action}
    (parked : machine.state.context.callbacks.parked.find? id.value = some continuation) :
    machine.state.Resolves id continuation (scriptResult payload) machine.step.state := by
  obtain ⟨view, found⟩ := view?_of_lookup routes.found
  let entered : Machine := ⟨machine.state.note [inbound.arrivedEntry],
    .handler inbound :: machine.stack, machine.mode⟩
  have present : entered.state.context.view? key = some view := found
  have handles : machine.step = entered.handlingResult key view payload := by
    have delivers : machine.Delivers inbound := routes.delivers
    rw [delivers.step_eq, delivering_eq, State.admitted_of_readable routes.found routes.read]
    change entered.handling key inbound.method payload = _
    unfold handling
    rw [present, routes.method]
  have resolves := entered.resolves_handlingResult key view routes.named parked
  rw [handles]
  exact ⟨resolves.parked, resolves.called, resolves.filled⟩

/-- What a handler calls is parked under the id of a result. -/
theorem callsOnly_handling (machine : Machine) (key : ObjectKey) {method : String}
    {allowed : String → Option String → Prop}
    (answers : ∀ id name steps ending, InboundMethod.ofName? method = some .evaluateResult →
      (payload.get? "callbackId").bind CallbackId.ofJson? = some id →
      machine.state.context.callbacks.parked.find? id.value = some (.reaction name steps ending) →
      allowed name (scriptResult payload)) :
    State.CallsOnly allowed machine.state (machine.handling key method payload).state := by
  unfold handling
  split
  · exact .of_seen rfl
  next view found =>
    split
    · exact .of_seen rfl
    next reports =>
      unfold handlingProgress
      split
      · exact .of_seen rfl
      · exact .of_seen rfl
    next results =>
      unfold handlingResult
      split
      · exact .of_seen rfl
      next id named =>
        dsimp only
        split
        next context taken => exact .of_seen rfl
        next context slot taken => exact .of_seen rfl
        next context name steps ending taken =>
          refine ⟨[.continued name (scriptResult payload)], rfl, fun other result member => ?_⟩
          cases List.mem_singleton.mp member
          exact answers id name steps ending results named (congrArg Prod.snd taken)
    next calls =>
      unfold handlingMessage
      split
      · exact .of_seen rfl
      · dsimp only
        split
        · exact .of_seen rfl
        next invocation claimed =>
          refine ⟨_, rfl, fun name result member => ?_⟩
          split at member
          · cases member
          · cases List.mem_singleton.mp member

/-- A delivery echoes the id that a continuation is parked under, and has a result for it. -/
def Answers (machine : Machine) (inbound : Inbound) (name : String) (result : Option String) :
    Prop :=
  ∃ payload echo steps ending, ∃ id : CallbackId,
    machine.Returns inbound payload echo ∧ id.Echoes echo ∧
    machine.state.context.callbacks.parked.find? id.value = some (.reaction name steps ending) ∧
    result = scriptResult payload

/-- A delivery calls only what is parked under an id that it echoes. -/
theorem Delivers.callsOnly (delivers : machine.Delivers inbound) :
    State.CallsOnly (machine.Answers inbound) machine.state machine.step.state := by
  rw [delivers.step_eq, delivering_eq]
  cases listed : machine.state.context.registry.lookup machine.state.context.alive
      inbound.objectId with
  | none =>
      rw [State.admitted_of_absent listed]
      exact .of_seen rfl
  | some key =>
      cases read : inbound.value? with
      | none =>
          rw [State.admitted_of_unreadable listed read]
          exact .of_seen rfl
      | some payload =>
          rw [State.admitted_of_readable listed read]
          apply callsOnly_handling
          intro id name steps ending results named parked
          have routes : machine.Routes inbound payload key id (scriptResult payload) :=
            ⟨delivers, results, listed, read, named, converts_iff.mpr rfl⟩
          obtain ⟨echo, returns, echoes⟩ := routes.returns
          exact ⟨payload, echo, steps, ending, id, returns, echoes, parked, rfl⟩

/-! ### Tickets -/

/-- What a machine does that evaluates a script, and the id that the script gets. -/
theorem deeds_of_script {action : Action} {name script : String} {next : CallbackId}
    (performs : machine.mode = .perform action)
    (calls : action.outbound? next = some (name, .evaluate script id)) :
    next = id ∧ machine.deeds =
      machine.state.evaluating name (action.continuation? machine.state.nextSlot) := by
  rw [deeds_of_performs performs]
  cases action with
  | run other text =>
      cases calls
      exact ⟨rfl, rfl⟩
  | evaluate other text label body ending =>
      cases calls
      exact ⟨rfl, rfl⟩
  | evaluateLater other text slot =>
      cases calls
      exact ⟨rfl, rfl⟩
  | _ => cases calls

end Machine

/-- A ticket that none of the later deeds settles stays as it is. -/
theorem mem_tickets_append {deeds later : List Deed} {ticket : Ticket}
    (member : ticket ∈ tickets deeds)
    (unsettled : ∀ deed ∈ later, deed.settles? ticket.view ticket.id = none) :
    ticket ∈ tickets (deeds ++ later) := by
  induction later generalizing deeds with
  | nil => rwa [List.append_nil]
  | cons deed later ih =>
      obtain ⟨first, others⟩ := List.forall_mem_cons.mp unsettled
      rw [List.append_cons]
      exact ih (mem_tickets_snoc.mpr (.inl ⟨ticket, member, Ticket.awaiting_of_unsettled first⟩))
        others

namespace Machine

variable {machine : Machine}

/-- The deed of a delivery is the answer it carries, if it carries any. -/
theorem Delivers.deeds_eq {inbound : Inbound} (delivers : machine.Delivers inbound) :
    machine.deeds = machine.state.answering inbound := by
  obtain ⟨whom, performs, addressed⟩ := delivers
  rw [deeds_of_performs performs]
  change machine.state.answering ⟨addressee machine.state whom, inbound.method,
    inbound.payload⟩ = _
  rw [← addressed]

/-- No script is evaluated by a delivery. -/
theorem Delivers.countP_deeds {inbound : Inbound} (delivers : machine.Delivers inbound) :
    machine.deeds.countP Deed.isEvaluation = 0 := by
  rw [delivers.deeds_eq, List.countP_eq_zero]
  intro deed done
  obtain ⟨_, _, _, _, _, _, _, rfl⟩ := machine.state.mem_answering_iff.mp done
  exact Bool.false_ne_true

/-- A ticket stays as it is when an event is delivered that does not echo its id. -/
theorem Delivers.mem_tickets {inbound : Inbound} (delivers : machine.Delivers inbound)
    {deeds : List Deed} {ticket : Ticket} (member : ticket ∈ tickets deeds)
    (unechoed : ∀ payload echo, machine.Returns inbound payload echo → ¬ ticket.id.Echoes echo) :
    ticket ∈ tickets (deeds ++ machine.deeds) := by
  rw [delivers.deeds_eq]
  apply mem_tickets_append member
  intro deed done
  obtain ⟨key, payload, id, listed, read, method, named, rfl⟩ :=
    machine.state.mem_answering_iff.mp done
  have routes : machine.Routes inbound payload key id (scriptResult payload) :=
    ⟨delivers, method, listed, read, named, converts_iff.mpr rfl⟩
  obtain ⟨echo, returns, echoes⟩ := routes.returns
  have apart : id ≠ ticket.id := by
    rintro rfl
    exact unechoed payload echo returns echoes
  exact if_neg apart

end Machine

/-- The ids that the engine is handed are those that come back. -/
structure Correspondence (visited : List Machine) (machine : Machine) : Prop where
  /-- The payload of a call to a view that was not destroyed is read as an object of the arguments
  of the call, with the id that is issued for a script. -/
  called : ∀ action name call key view, machine.mode = .perform action →
    action.outbound? ⟨machine.state.context.callbacks.issued + 1⟩ = some (name, call) →
    machine.state.view? name = some (key, view) → view.isDestroyed = false →
    call.HasDistinctHeaders →
    ∃ text json, ∃ dropped : List String, machine.step.state.seen = machine.state.seen ++
        .webInvoke view.handle.address call.method text :: dropped.map Sighting.abandoned ∧
      Json.parse text = some json ∧ call.Carries json
  /-- That id counts the scripts and is on no earlier ticket; if the engine takes the call, the
  continuation waits under it. -/
  issued : (history (visited ++ [machine])).countP Deed.isEvaluation < UInt64.size →
    ∀ action name script id key view, machine.mode = .perform action →
    action.outbound? ⟨machine.state.context.callbacks.issued + 1⟩ =
      some (name, .evaluate script id) →
    machine.state.view? name = some (key, view) → view.isDestroyed = false →
    id.value.toNat = (history visited).countP Deed.isEvaluation + 1 ∧
      (∀ ticket ∈ tickets (history visited), ticket.id ≠ id) ∧
      ∀ continuation, action.continuation? machine.state.nextSlot = some continuation →
        machine.state.web.failure = none →
        ⟨key, id, continuation, .parked⟩ ∈ tickets (history (visited ++ [machine]))
  /-- An echo of its id calls the continuation that waits under it, and no other. -/
  echoed : (history visited).countP Deed.isEvaluation < UInt64.size →
    ∀ ticket ∈ tickets (history visited), ticket.fate = .parked →
    ∀ inbound payload echo, machine.Returns inbound payload echo → ticket.id.Echoes echo →
      machine.state.Resolves ticket.id ticket.continuation (scriptResult payload)
        machine.step.state
  /-- Whatever is delivered, only what waits under an id that it echoes is called. -/
  confined : ∀ inbound, machine.Delivers inbound →
    State.CallsOnly (machine.Answers inbound) machine.state machine.step.state
  /-- Any other event leaves it waiting. -/
  unechoed : (history visited).countP Deed.isEvaluation < UInt64.size →
    ∀ ticket ∈ tickets (history visited), ticket.fate = .parked →
    ∀ inbound, machine.Delivers inbound →
    (∀ payload echo, machine.Returns inbound payload echo → ¬ ticket.id.Echoes echo) →
      machine.step.state.context.callbacks.parked.find? ticket.id.value =
          some ticket.continuation ∧
        ∀ slot, ticket.continuation = .slot slot →
          machine.step.state.slots.find? slot = some .waiting

namespace Run

variable {visited : List Machine} {machine : Machine}

/-- A script takes the next id, which is above all that were issued. -/
theorem issues_script (run : Run visited machine)
    (unspent : (history (visited ++ [machine])).countP Deed.isEvaluation < UInt64.size)
    {action : Action} {name script : String} {id : CallbackId} {key : ObjectKey}
    {view : View Action} (performs : machine.mode = .perform action)
    (calls : action.outbound? ⟨machine.state.context.callbacks.issued + 1⟩ =
      some (name, .evaluate script id))
    (named : machine.state.view? name = some (key, view)) :
    id.value.toNat = (history visited).countP Deed.isEvaluation + 1 ∧
      ∀ ticket ∈ tickets (history visited), ticket.id ≠ id := by
  obtain ⟨rfl, deeds⟩ := machine.deeds_of_script performs calls
  have fewer := unspent_of_evaluating unspent named deeds
  obtain ⟨_, issues⟩ := run.reached_unruled.keeps (Nat.lt_of_succ_lt fewer)
  have next := issues.toNat_next fewer
  rw [issues.issued] at next
  exact ⟨next, issues.fresh fewer⟩

/-- Whatever is done, the engine is handed the arguments of each call and the id of each script, and
an echo of the id calls the continuation of that script and no other, as long as the counter of ids
has not come around.  Numerals echo an id only if they are the digits of the id. -/
theorem correspondence (run : Run visited machine) : Correspondence visited machine ∧
    ∀ (id : CallbackId) (numeral : Json.Numeral) (number : Json.Number),
      numeral.value? = some number → (id.Echoes (.number number) ↔
        numeral.negative = false ∧ numeral.fraction = none ∧ numeral.exponent = none ∧
          Json.natOfDigits numeral.whole = id.value.toNat) := by
  refine ⟨⟨?called, ?issued, ?echoed, fun _ delivers => delivers.callsOnly, ?unechoed⟩,
    fun id numeral number => CallbackId.echoes_iff_of_numeral⟩
  case called =>
    intro action name call key view performs calls named living distinct
    obtain ⟨dropped, seen⟩ := machine.sends performs calls named living
    obtain ⟨json, parsed, carries⟩ := Outbound.parse_payload distinct
    exact ⟨_, json, dropped, seen, parsed, carries⟩
  case issued =>
    intro unspent action name script id key view performs calls named living
    obtain ⟨counted, fresh⟩ := run.issues_script unspent performs calls named
    refine ⟨counted, fresh, fun continuation continues takes => ?_⟩
    obtain ⟨rfl, deeds⟩ := machine.deeds_of_script performs calls
    rw [history_snoc, deeds, State.evaluating, named, continues]
    dsimp only
    rw [← List.append_assoc]
    refine mem_tickets_snoc.mpr (.inr ?_)
    rw [living, takes]
    rfl
  case echoed =>
    intro unspent ticket member parked inbound payload echo returns echoes
    obtain ⟨keeps, _⟩ := run.reached_unruled.keeps unspent
    obtain ⟨key, routes⟩ := returns.routes echoes
    exact routes.resolves (keeps.find?_of_parked member parked)
  case unechoed =>
    intro unspent ticket member parked inbound delivers unechoed
    have later : ticket ∈ tickets (history (visited ++ [machine])) := by
      rw [history_snoc]
      exact delivers.mem_tickets member unechoed
    have accounts : Accounts (history (visited ++ [machine])) machine.step := by
      apply run.step.accounts
      rw [history_snoc, List.countP_append, delivers.countP_deeds]
      exact unspent
    refine ⟨(accounts.parked _ _).mpr ⟨ticket, later, rfl, rfl, parked⟩, fun slot holds => ?_⟩
    obtain ⟨content, found, shows⟩ :=
      accounts.slots ticket later slot (Ticket.slot?_of_continuation holds)
    rw [parked] at shows
    rcases shows with rfl | ⟨_, _, result, called⟩
    · exact found
    · cases called

/-- A page that sends an id back as a text with blanks, a sign and zeros. -/
theorem correspondence_of_echo : ∃ visited machine inbound payload echo ticket,
    Run visited machine ∧ Correspondence visited machine ∧
    ticket ∈ tickets (history visited) ∧ ticket.fate = .parked ∧
    machine.Returns inbound payload echo ∧ ticket.id.Echoes echo ∧
    machine.step.state.seen =
      machine.state.seen ++ [.continued "sum" (scriptResult payload)] := by
  let inbound : Inbound := ⟨0x1000, "onEvaluateJavascriptResult",
    "\x7b\"callbackId\":\"\\u00a0+001\\t\",\"result\":3\x7d"⟩
  let ticket : Ticket := ⟨0, ⟨1⟩, .reaction "sum" [] .returns, .parked⟩
  have created := Run.step (.start State.new_withWeb (.createView "page"))
  have evaluated := (created.next rfl (.evaluate "page" "1 + 2" "sum" [] .returns)).step
  have returned := evaluated.next rfl (.deliver ⟨some "page", 0⟩ inbound.method inbound.payload)
  obtain ⟨visited, machine, run, delivers, listed, unspent, member⟩ : ∃ visited machine,
      Run visited machine ∧ machine.Delivers inbound ∧
      machine.state.context.registry.lookup machine.state.context.alive inbound.objectId = some 0 ∧
      (history visited).countP Deed.isEvaluation < UInt64.size ∧
      ticket ∈ tickets (history visited) :=
    ⟨_, _, returned, ⟨_, rfl, rfl⟩, by decide +kernel, by decide +kernel, List.mem_cons_self⟩
  have named : (inbound.value?.bind fun payload =>
      (payload.get? "callbackId").bind CallbackId.ofJson?) = some ⟨1⟩ := by decide +kernel
  obtain ⟨payload, read, named⟩ := Option.bind_eq_some_iff.mp named
  have routes : machine.Routes inbound payload 0 ⟨1⟩ (scriptResult payload) :=
    ⟨delivers, InboundMethod.ofName?_eq_some_iff.mpr rfl, listed, read, named, converts_iff.mpr rfl⟩
  obtain ⟨echo, returns, echoes⟩ := routes.returns
  have corresponds := run.correspondence.1
  have resolves := corresponds.echoed unspent ticket member rfl inbound payload echo returns echoes
  exact ⟨visited, machine, inbound, payload, echo, ticket, run, corresponds, member, rfl, returns,
    echoes, (resolves.called _ _ _ rfl).1⟩

end Run

end HostBridge.Session
