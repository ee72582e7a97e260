import HostBridge.Proofs.Event.Announcing
import HostBridge.Proofs.Net.Turn

/-!
# The accounts of a client

What a call returns, what the client counts and what it announces are three views of the same
decision, made once for each reply, and what it announces is what whoever listens to its bus finds.

Main statement: over any sequence of calls, whatever the engine answers, these agree
(`NetSession.accounting`).
-/

namespace HostBridge

/-- A call of a sequence, with the session that makes it. -/
structure NetCall where
  before : NetSession
  turn : NetTurn

namespace NetCall

def after (call : NetCall) : NetSession := (call.before.take call.turn).1

/-- The request, if it reached the engine. -/
def sent (call : NetCall) : Option NetRequest := (call.before.take call.turn).2.1

/-- How the call ended. -/
def outcome (call : NetCall) : NetOutcome := (call.before.take call.turn).2.2

/-- A call is refused for want of an address only, and answered by the reply otherwise. -/
structure Settled (call : NetCall) : Prop where
  refused_iff : (∃ error, call.outcome = .refused error) ↔ Text.trim call.turn.request.url = ""
  answered_iff : (∃ response, call.outcome = .answered response) ↔
    Text.trim call.turn.request.url ≠ ""
  /-- Neither the engine nor the clock is asked, and nothing is counted or announced. -/
  refused : Text.trim call.turn.request.url = "" →
    call.sent = none ∧ call.after = call.before.facing call.turn
  sent : Text.trim call.turn.request.url ≠ "" → call.sent = some call.turn.request
  /-- Without metadata the rest of the reply does not matter. -/
  failed : Text.trim call.turn.request.url ≠ "" → call.turn.info? = none →
    call.outcome = .answered
      ⟨500, none, some (call.turn.fault call.before.client.complain), Table.empty, none, none, none⟩
  replied : Text.trim call.turn.request.url ≠ "" → ∀ info, call.turn.info? = some info →
    ∃ response, call.outcome = .answered response ∧ response.Carries info call.turn.reply[1]?

/-- An event tells how a call was answered. -/
structure Announces (call : NetCall) (event : Event) : Prop where
  failed : call.turn.info? = none → ∃ error, call.outcome = .answered (.synthetic error) ∧
    event = .net (.transportFailed call.turn.request.url error)
  completed : ∀ info, call.turn.info? = some info → ∃ response elapsed,
    call.outcome = .answered response ∧ call.turn.elapsed? = some elapsed ∧
      event = .net (.completed call.turn.request.url response.code elapsed response.nativeCost?)

variable {call : NetCall}

/-- A call without an address is settled by its refusal. -/
theorem settled_of_refused (refused : call.turn.isAccepted = false) : call.Settled := by
  have blank : Text.trim call.turn.request.url = "" := not_not.mp (of_decide_eq_false refused)
  have taken := call.before.take_of_refused refused
  constructor
  · simp [outcome, taken, blank]
  · simp [outcome, taken, blank]
  · intro _
    exact ⟨congrArg (·.2.1) taken, congrArg (·.1) taken⟩
  · exact fun solid => absurd blank solid
  · exact fun solid => absurd blank solid
  · exact fun solid => absurd blank solid

/-- A call with an address is settled by the reply. -/
theorem settled_of_accepted {elapsed : UInt64} (accepted : call.turn.isAccepted = true)
    (measured : call.turn.elapsed? = some elapsed) : call.Settled := by
  have solid : Text.trim call.turn.request.url ≠ "" := of_decide_eq_true accepted
  have taken := call.before.take_of_accepted accepted measured
  have ends := congrArg (·.2.2) taken
  constructor
  · simp [outcome, taken, solid]
  · simp [outcome, taken, solid]
  · exact fun blank => absurd blank solid
  · exact fun _ => congrArg (·.2.1) taken
  · intro _ unread
    obtain ⟨response, _⟩ := call.before.client.settle_of_unread elapsed unread
    exact ends.trans (congrArg NetOutcome.answered response)
  · intro _ info read
    obtain ⟨response, _⟩ := call.before.client.settle_of_read elapsed read
    exact ⟨_, ends.trans (congrArg NetOutcome.answered response), NetResponse.carries_ofMeta info _⟩

/-- Every call whose readings can be subtracted is settled. -/
theorem settled (measured : call.turn.IsMeasured) : call.Settled := by
  obtain refused | ⟨accepted, elapsed, measured⟩ := measured.refused_or_accepted
  · exact settled_of_refused refused
  · exact settled_of_accepted accepted measured

/-- A settled call announces how it was answered. -/
theorem announces_of_accepted {elapsed : UInt64} (accepted : call.turn.isAccepted = true)
    (measured : call.turn.elapsed? = some elapsed) :
    call.Announces
      (.net (call.before.client.settle call.turn.request elapsed call.turn.reply).event) := by
  have ends := congrArg (·.2.2) (call.before.take_of_accepted accepted measured)
  constructor
  · intro unread
    obtain ⟨response, event, _⟩ := call.before.client.settle_of_unread elapsed unread
    exact ⟨_, ends.trans (congrArg NetOutcome.answered response), congrArg Event.net event⟩
  · intro info read
    obtain ⟨response, event, _⟩ := call.before.client.settle_of_read elapsed read
    exact ⟨_, elapsed, ends.trans (congrArg NetOutcome.answered response), measured,
      congrArg Event.net event⟩

end NetCall

namespace NetSession

def calls (session : NetSession) : List NetTurn → List NetCall
  | [] => []
  | turn :: turns => ⟨session, turn⟩ :: (session.take turn).1.calls turns

/-- What a session has counted and announced since an earlier state of it.  The counters have 64
bits. -/
structure Accounts (before after : NetSession) (made : List NetCall) : Prop where
  calls : after.client.stats.calls.toNat = (before.client.stats.calls.toNat +
    made.countP (fun call => call.turn.isAccepted)) % UInt64.size
  transportFailures : after.client.stats.transportFailures.toNat =
    (before.client.stats.transportFailures.toNat +
      made.countP (fun call => call.turn.isAccepted && call.turn.info?.isNone)) % UInt64.size
  announced : ∀ earlier, before.bus = some earlier → ∃ later events, after.bus = some later ∧
    later = earlier.announceAll events ∧ later.emitted = earlier.emitted ++ events ∧
      List.Forall₂ NetCall.Announces (made.filter (fun call => call.turn.isAccepted)) events

namespace Accounts

variable {before between after : NetSession}

/-- Calls that are all refused count and announce nothing. -/
theorem of_same {made : List NetCall} (none : made.countP (fun call => call.turn.isAccepted) = 0)
    (client : after.client = before.client) (bus : after.bus = before.bus) :
    Accounts before after made := by
  have all := List.countP_eq_zero.mp none
  have nothing : made.filter (fun call => call.turn.isAccepted) = [] :=
    List.filter_eq_nil_iff.mpr all
  have unfailed : made.countP (fun call => call.turn.isAccepted && call.turn.info?.isNone) = 0 := by
    rw [List.countP_eq_zero]
    intro call member both
    exact all call member ((Bool.and_eq_true _ _).mp both).1
  constructor
  · rw [client, none, Nat.add_zero, Nat.mod_eq_of_lt (UInt64.toNat_lt _)]
  · rw [client, unfailed, Nat.add_zero, Nat.mod_eq_of_lt (UInt64.toNat_lt _)]
  · intro earlier present
    rw [nothing]
    exact ⟨earlier, [], bus.trans present, rfl, (List.append_nil _).symm, .nil⟩

/-- Accounts of runs one after another add up. -/
theorem trans {first second : List NetCall} (left : Accounts before between first)
    (right : Accounts between after second) : Accounts before after (first ++ second) where
  calls := by rw [right.calls, left.calls, List.countP_append, Nat.mod_add_mod, Nat.add_assoc]
  transportFailures := by
    rw [right.transportFailures, left.transportFailures, List.countP_append, Nat.mod_add_mod,
      Nat.add_assoc]
  announced := by
    intro earlier present
    obtain ⟨middle, events, found, bus, emitted, told⟩ := left.announced earlier present
    obtain ⟨later, more, last, grown, further, rest⟩ := right.announced middle found
    refine ⟨later, events ++ more, last, ?_, ?_, ?_⟩
    · rw [grown, bus, Bus.announceAll_append]
    · rw [further, emitted, List.append_assoc]
    · rw [List.filter_append]
      exact List.rel_append told rest

end Accounts

variable {session : NetSession} {turn : NetTurn}

/-- A refused call leaves all accounts as they were. -/
theorem accounts_of_refused (refused : turn.isAccepted = false) :
    Accounts session (session.take turn).1 [⟨session, turn⟩] := by
  have taken := session.take_of_refused refused
  apply Accounts.of_same
  · rw [List.countP_singleton, refused]
    rfl
  · rw [taken]
    rfl
  · rw [taken]
    rfl

/-- An accepted call counts one, and one failure if it has no metadata, and is announced. -/
theorem accounts_of_accepted {elapsed : UInt64} (accepted : turn.isAccepted = true)
    (measured : turn.elapsed? = some elapsed) :
    Accounts session (session.take turn).1 [⟨session, turn⟩] := by
  have taken := session.take_of_accepted accepted measured
  have told : NetCall.Announces ⟨session, turn⟩
      (.net (session.client.settle turn.request elapsed turn.reply).event) :=
    NetCall.announces_of_accepted accepted measured
  have counted : (session.take turn).1.client.stats.calls = session.client.stats.calls + 1 ∧
      (session.take turn).1.client.stats.transportFailures =
        session.client.stats.transportFailures + if turn.info?.isNone then 1 else 0 := by
    rw [taken]
    cases read : turn.info? with
    | none =>
        obtain ⟨_, _, calls, failures⟩ := session.client.settle_of_unread elapsed read
        exact ⟨calls, failures⟩
    | some info =>
        obtain ⟨_, _, calls, failures⟩ := session.client.settle_of_read elapsed read
        exact ⟨calls, failures.trans (UInt64.add_zero _).symm⟩
  constructor
  · rw [counted.1, UInt64.toNat_add, List.countP_singleton, accepted]
    rfl
  · rw [counted.2, UInt64.toNat_add, List.countP_singleton, accepted]
    cases turn.info?.isNone <;> rfl
  · intro earlier present
    refine ⟨_, [.net (session.client.settle turn.request elapsed turn.reply).event], ?_, rfl,
      Bus.emitted_announceAll earlier _, ?_⟩
    · rw [taken, present]
      rfl
    · rw [List.filter_singleton, accepted]
      exact .cons told .nil

/-- Every call whose readings can be subtracted keeps the accounts. -/
theorem accounts_take (session : NetSession) (measured : turn.IsMeasured) :
    Accounts session (session.take turn).1 [⟨session, turn⟩] := by
  obtain refused | ⟨accepted, elapsed, measured⟩ := measured.refused_or_accepted
  · exact accounts_of_refused refused
  · exact accounts_of_accepted accepted measured

/-- Each call of a run is settled. -/
theorem settled_calls {turns : List NetTurn} (measured : ∀ turn ∈ turns, turn.IsMeasured)
    (session : NetSession) : ∀ call ∈ session.calls turns, call.Settled := by
  induction turns generalizing session with
  | nil => exact List.forall_mem_nil _
  | cons turn turns ih =>
      obtain ⟨here, later⟩ := List.forall_mem_cons.mp measured
      have first : NetCall.Settled ⟨session, turn⟩ := NetCall.settled here
      rw [calls, List.forall_mem_cons]
      exact ⟨first, ih later (session.take turn).1⟩

/-- A run of calls keeps the accounts. -/
theorem accounts_calls {turns : List NetTurn} (measured : ∀ turn ∈ turns, turn.IsMeasured)
    (session : NetSession) : Accounts session (session.after turns) (session.calls turns) := by
  induction turns generalizing session with
  | nil => exact Accounts.of_same rfl rfl rfl
  | cons turn turns ih =>
      obtain ⟨here, later⟩ := List.forall_mem_cons.mp measured
      exact (session.accounts_take here).trans (ih later (session.take turn).1)

/-- A stream that listens finds of a sequence of calls just what the calls announce. -/
structure Heard (before after : NetSession) (made : List NetCall) : Prop where
  stream : after.stream = before.stream
  found : ∀ earlier stream backlog, before.bus = some earlier → earlier.subscribers ≠ 0 →
    earlier.Owes stream backlog → ∃ later events, after.bus = some later ∧
      List.Forall₂ NetCall.Announces (made.filter (fun call => call.turn.isAccepted)) events ∧
        ((stream.drain earlier).2.drain later).1 = later.drained stream.accepts events

/-- What a run announces is what the stream on its bus finds. -/
theorem Accounts.heard {before after : NetSession} {made : List NetCall}
    (accounts : Accounts before after made) (stream : after.stream = before.stream) :
    Heard before after made where
  stream := stream
  found := by
    intro earlier stream backlog present listened owes
    obtain ⟨later, events, last, rfl, _, told⟩ := accounts.announced earlier present
    exact ⟨_, events, last, told, owes.drain_again listened events⟩

/-- A call leaves the stream where it was. -/
theorem stream_take (session : NetSession) (measured : turn.IsMeasured) :
    (session.take turn).1.stream = session.stream := by
  obtain refused | ⟨accepted, elapsed, measured⟩ := measured.refused_or_accepted
  · rw [session.take_of_refused refused]
    rfl
  · rw [session.take_of_accepted accepted measured]

/-- A run of calls leaves the stream where it was. -/
theorem stream_after {turns : List NetTurn} (measured : ∀ turn ∈ turns, turn.IsMeasured)
    (session : NetSession) : (session.after turns).stream = session.stream := by
  induction turns generalizing session with
  | nil => rfl
  | cons turn turns ih =>
      obtain ⟨here, later⟩ := List.forall_mem_cons.mp measured
      exact (ih later (session.take turn).1).trans (session.stream_take here)

/-- Over any sequence of calls each call is refused or answered as its address and its reply say,
and the counters, the bus and whoever listens to it have it the same way. -/
theorem accounting {turns : List NetTurn} (measured : ∀ turn ∈ turns, turn.IsMeasured)
    (session : NetSession) :
    (∀ call ∈ session.calls turns, call.Settled) ∧
      Accounts session (session.after turns) (session.calls turns) ∧
        Heard session (session.after turns) (session.calls turns) :=
  have accounts := accounts_calls measured session
  ⟨settled_calls measured session, accounts, accounts.heard (stream_after measured session)⟩

/-- A blank address, a reply whose first segment is empty, and a reply that tells of a failure,
which is no failed transport. -/
theorem accounting_of_failures :
    let failure := NetMeta.failure "refused"
    let turns : List NetTurn := [⟨.get " \n", [], 0, 0⟩, ⟨.get "http://a", [[], [1]], 3, 2⟩,
      ⟨.get "http://a", failure.segments (some []), 2, 5⟩]
    let session := NetSession.new false .silent true true []
    (∀ turn ∈ turns, turn.IsMeasured) ∧ turns.map NetTurn.isAccepted = [false, true, true] ∧
      (turns.map NetTurn.info?).map Option.isSome = [false, false, true] ∧
      (∀ call ∈ session.calls turns, call.Settled) ∧
        Accounts session (session.after turns) (session.calls turns) ∧
          Heard session (session.after turns) (session.calls turns) ∧
            (∃ earlier stream, session.bus = some earlier ∧ earlier.subscribers ≠ 0 ∧
              earlier.Owes stream []) := by
  intro failure turns session
  have measured : ∀ turn ∈ turns, turn.IsMeasured := by
    simp only [turns, List.forall_mem_cons, NetTurn.IsMeasured, NetTurn.elapsed?]
    exact ⟨by decide, by decide, by decide, List.forall_mem_nil _⟩
  obtain ⟨settled, accounts, heard⟩ := accounting measured session
  refine ⟨measured, by decide, ?_, settled, accounts, heard, _, _, rfl, Nat.one_ne_zero,
    .subscribe (.new busCapacity)⟩
  have read : NetTurn.info? ⟨.get "http://a", failure.segments (some []), 2, 5⟩ = some failure :=
    NetTurn.info?_of_segments rfl
  simp only [turns, List.map_cons, List.map_nil, read]
  rfl

end NetSession

end HostBridge
