import HostBridge.Proofs.Session.Calls
import HostBridge.Proofs.Session.Outline

/-!
# Where deeds come from

Each deed is done by few actions: handles are cleared where a view is destroyed, dropped or
replaced, scripts are evaluated by calls, and results come in by deliveries.

Main statements: the part of an action that does a deed (`State.origin_of_mem_deeds`), and from it
what clears handles (`State.clear_of_mem_deeds`) and what is done to continuations
(`State.quiet_of_mem_deeds`).
-/

namespace HostBridge.Session

namespace State

variable (state : State)

/-- Clearing a view lets it go and clears it, and does no more. -/
theorem mem_clearing {dropped : Bool} {key : ObjectKey} {deed : Deed}
    (member : deed ∈ state.clearing dropped key) :
    deed = .letGo key ∨ deed = .clear key dropped := by
  unfold clearing at member
  split at member
  · cases member
  · split at member
    · split at member
      · exact .inl (List.mem_singleton.mp member)
      · cases member
    · exact .inr (List.mem_singleton.mp member)

/-- A living view is cleared by what clears it. -/
theorem clear_mem_clearing {key : ObjectKey} {view : View Action}
    (found : state.context.view? key = some view) (living : view.isDestroyed = false)
    (dropped : Bool) : .clear key dropped ∈ state.clearing dropped key := by
  simp only [clearing, found, living, Bool.false_eq_true, ↓reduceIte, List.mem_singleton]

/-- To invoke is the only deed of an outbound call. -/
theorem mem_invoking {name : String} {deed : Deed} (member : deed ∈ state.invoking name) :
    ∃ key, deed = .invoke key := by
  unfold invoking at member
  split at member
  · cases member
  next key view found =>
    split at member
    · cases member
    · exact ⟨key, List.mem_singleton.mp member⟩

/-- An evaluation invokes and evaluates, under the next id. -/
theorem mem_evaluating {name : String} {continuation : Option (Continuation Action)} {deed : Deed}
    (member : deed ∈ state.evaluating name continuation) :
    (∃ key, deed = .invoke key) ∨
      ∃ key view, state.context.view? key = some view ∧
        deed = .evaluate key ⟨state.context.callbacks.issued + 1⟩ continuation
          (!view.isDestroyed && state.web.failure.isNone) := by
  unfold evaluating at member
  split at member
  · cases member
  next key view found =>
    cases List.mem_append.mp member with
    | inl invokes => exact .inl (state.mem_invoking invokes)
    | inr evaluates =>
        have present := (state.view?_eq_some_iff.mp found).2
        exact .inr ⟨key, view, present, List.mem_singleton.mp evaluates⟩

/-- An answer is done for a script result that finds its view, can be read and carries an id. -/
theorem mem_answering_iff {inbound : Inbound} {deed : Deed} :
    deed ∈ state.answering inbound ↔ ∃ key payload id,
      state.context.registry.lookup state.context.alive inbound.objectId = some key ∧
        inbound.value? = some payload ∧
        InboundMethod.ofName? inbound.method = some .evaluateResult ∧
        (payload.get? "callbackId").bind CallbackId.ofJson? = some id ∧
        deed = .answer key id (scriptResult payload) := by
  unfold answering
  split
  next key payload found read method =>
    simp only [List.mem_map, Option.mem_toList]
    constructor
    · rintro ⟨id, named, rfl⟩
      exact ⟨key, payload, id, found, read, method, named, rfl⟩
    · rintro ⟨other, another, id, again, reread, _, named, rfl⟩
      cases found.symm.trans again
      cases read.symm.trans reread
      exact ⟨id, named, rfl⟩
  next unrouted =>
    constructor
    · intro member
      cases member
    · rintro ⟨key, payload, id, found, read, method, _⟩
      exact absurd method (unrouted key payload found read)

/-- What creating a view does: the view that had the name is dropped. -/
theorem mem_creating {amid : UInt64 → Bool} {name : String} {deed : Deed}
    (member : deed ∈ state.creating amid name) :
    ∃ address,
      state.creating amid name = .create address (amid address) ::
        (state.viewNames.find? name).toList.flatMap
          (({ state with context := (state.context.adopt address).1 } : State).clearing true) ∧
      (deed = .create address (amid address) ∨
        ∃ key, state.viewNames.find? name = some key ∧
          (deed = .letGo key ∨ deed = .clear key true)) := by
  unfold creating at member ⊢
  split at member
  next address _ _ =>
    split at member
    · cases member
    next given =>
      refine ⟨address, if_neg given, ?_⟩
      cases List.mem_cons.mp member with
      | inl creates => exact .inl creates
      | inr clears =>
          obtain ⟨key, named, clears⟩ := List.mem_flatMap.mp clears
          exact .inr ⟨key, Option.mem_toList.mp named, mem_clearing _ clears⟩
  · cases member

/-- The part of an action that does a deed. -/
inductive Origin (amid : UInt64 → Bool) (deed : Deed) : Action → Prop where
  | creation {name : String} (member : deed ∈ state.creating amid name) :
      Origin amid deed (.createView name)
  | destruction {name : String} {key : ObjectKey} (named : state.viewNames.find? name = some key)
      (member : deed ∈ state.clearing false key) : Origin amid deed (.destroy name)
  | drop {name : String} {key : ObjectKey} (named : state.viewNames.find? name = some key)
      (member : deed ∈ state.clearing true key) : Origin amid deed (.dropView name)
  | call {action : Action} {name : String} (member : deed ∈ state.invoking name) :
      Origin amid deed action
  | evaluation {action : Action} {name : String} {continuation : Option (Continuation Action)}
      (member : deed ∈ state.evaluating name continuation) : Origin amid deed action
  | delivery {whom : Addressee} {method payload : String}
      (member : deed ∈ state.answering ⟨Machine.addressee state whom, method, payload⟩) :
      Origin amid deed (.deliver whom method payload)
  | poll {action : Action} {slot : Nat} (same : deed = .poll slot) : Origin amid deed action

/-- Every deed of an action has its origin in what the action is. -/
theorem origin_of_mem_deeds {amid : UInt64 → Bool} {action : Action} {deed : Deed}
    (member : deed ∈ state.deeds amid action) : state.Origin amid deed action := by
  cases action with
  | createView name => exact .creation member
  | destroy name =>
      obtain ⟨key, named, clears⟩ := List.mem_flatMap.mp member
      exact .destruction (Option.mem_toList.mp named) clears
  | dropView name =>
      obtain ⟨key, named, clears⟩ := List.mem_flatMap.mp member
      exact .drop (Option.mem_toList.mp named) clears
  | loadUrl name url headers => exact .call member
  | loadData name data baseUrl mimeType encoding historyUrl => exact .call member
  | addInterface name interface target => exact .call member
  | run name script => exact .evaluation member
  | evaluate name script label steps ending => exact .evaluation member
  | evaluateLater name script slot => exact .evaluation member
  | poll name =>
      obtain ⟨slot, _, same⟩ := List.mem_map.mp member
      exact .poll same.symm
  | deliver whom method payload => exact .delivery member
  | _ => cases member

/-- A view is cleared by a destroy, a drop, or a creation under its name. -/
theorem clear_of_mem_deeds {amid : UInt64 → Bool} {action : Action} {key : ObjectKey}
    {dropped : Bool} (done : .clear key dropped ∈ state.deeds amid action) :
    ∃ name, state.viewNames.find? name = some key ∧
      (action = .destroy name ∨ action = .dropView name ∨
        action = .createView name ∧
          ∃ address, .create address (amid address) ∈ state.creating amid name) := by
  cases state.origin_of_mem_deeds done with
  | @creation name member =>
      obtain ⟨address, all, creates | ⟨other, named, lets | clears⟩⟩ := state.mem_creating member
      · cases creates
      · cases lets
      · cases clears
        refine ⟨name, named, .inr (.inr ⟨rfl, address, ?_⟩)⟩
        rw [all]
        exact List.mem_cons_self
  | @destruction name other named member =>
      cases state.mem_clearing member with
      | inl lets => cases lets
      | inr clears =>
          cases clears
          exact ⟨name, named, .inl rfl⟩
  | @drop name other named member =>
      cases state.mem_clearing member with
      | inl lets => cases lets
      | inr clears =>
          cases clears
          exact ⟨name, named, .inr (.inl rfl)⟩
  | call member =>
      obtain ⟨_, invokes⟩ := state.mem_invoking member
      cases invokes
  | evaluation member =>
      obtain ⟨_, invokes⟩ | ⟨_, _, _, evaluates⟩ := state.mem_evaluating member
      · cases invokes
      · cases evaluates
  | delivery member =>
      obtain ⟨_, _, _, _, _, _, _, answers⟩ := state.mem_answering_iff.mp member
      cases answers
  | poll same => cases same

/-- What an action does to continuations: it evaluates a script, delivers a result or looks into a
slot. -/
theorem quiet_of_mem_deeds {amid : UInt64 → Bool} {action : Action} {deed : Deed}
    (done : deed ∈ state.deeds amid action) (quiet : deed.isQuiet = true) :
    (∃ name continuation, deed ∈ state.evaluating name continuation) ∨
      (∃ whom method payload, action = .deliver whom method payload ∧
        deed ∈ state.answering ⟨Machine.addressee state whom, method, payload⟩) ∨
      ∃ slot, deed = .poll slot := by
  cases state.origin_of_mem_deeds done with
  | creation member =>
      obtain ⟨_, _, rfl | ⟨_, _, rfl | rfl⟩⟩ := state.mem_creating member
      · cases quiet
      · cases quiet
      · cases quiet
  | destruction named member =>
      obtain rfl | rfl := state.mem_clearing member
      · cases quiet
      · cases quiet
  | drop named member =>
      obtain rfl | rfl := state.mem_clearing member
      · cases quiet
      · cases quiet
  | call member =>
      obtain ⟨_, rfl⟩ := state.mem_invoking member
      cases quiet
  | evaluation member => exact .inl ⟨_, _, member⟩
  | delivery member => exact .inr (.inl ⟨_, _, _, rfl, member⟩)
  | poll same => exact .inr (.inr ⟨_, same⟩)

end State

namespace Machine

variable {machine : Machine}

/-- Whatever a machine does apart from retiring views, its action does. -/
theorem action_of_mem_deeds {deed : Deed} (done : deed ∈ machine.deeds) :
    (∃ action, machine.mode = .perform action ∧
        deed ∈ machine.state.deeds machine.releases action) ∨
      ∃ key, deed = .retire key := by
  unfold deeds at done
  split at done
  next _ _ action performs => exact .inl ⟨action, performs, done⟩
  next => exact .inr ⟨_, List.mem_singleton.mp done⟩
  next => cases done

end Machine

end HostBridge.Session
