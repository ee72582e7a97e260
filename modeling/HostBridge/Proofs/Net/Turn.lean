import HostBridge.Proofs.Net.Wire
import HostBridge.Proofs.Text.Numeral

/-!
# Calls against any engine

A turn is a call together with what the engine answers and what the clock reads around it, whatever
these are.

Main statements: a request without an address changes nothing (`take_of_refused`), any other one is
settled by the reply that the engine gave (`take_of_accepted`), if the readings of the clock can be
subtracted (`take_of_overflowed`), and the settled call depends on whether the reply has metadata
(`settle_of_unread`, `settle_of_read`).
-/

namespace HostBridge

/-- A call, the answer of the engine and the two readings of the clock. -/
structure NetTurn where
  request : NetRequest
  reply : List Bytes
  started : Int64
  ended : Int64

namespace NetTurn

variable {turn : NetTurn}

/-- Whether the address holds more than blanks. -/
def isAccepted (turn : NetTurn) : Bool := Text.trim turn.request.url ≠ ""

/-- The metadata of the reply, if there is a first segment, which is not empty and can be read. -/
def info? (turn : NetTurn) : Option NetMeta :=
  match turn.reply with
  | [] => none
  | [] :: _ => none
  | head :: _ => NetMeta.ofBytes? head

/-- The time between the readings. -/
def elapsed? (turn : NetTurn) : Option UInt64 := elapsedMs? turn.started turn.ended

/-- If the call is made, the readings of the clock can be subtracted. -/
def IsMeasured (turn : NetTurn) : Prop := turn.isAccepted = true → turn.elapsed?.isSome = true

/-- A measured call is refused, or accepted and timed. -/
theorem IsMeasured.refused_or_accepted (measured : turn.IsMeasured) :
    turn.isAccepted = false ∨
      turn.isAccepted = true ∧ ∃ elapsed, turn.elapsed? = some elapsed := by
  cases accepted : turn.isAccepted with
  | false => exact .inl rfl
  | true => exact .inr ⟨rfl, Option.isSome_iff_exists.mp (measured accepted)⟩

/-- A blank address is refused, with a text. -/
theorem refusal?_of_refused (refused : turn.isAccepted = false) :
    turn.request.refusal? = some (.validation "request URL is empty") := by
  have blank : Text.isBlankText turn.request.url = true :=
    (Text.isBlankText_iff _).mpr (not_not.mp (of_decide_eq_false refused))
  rw [NetRequest.refusal?, if_pos blank]

/-- No other address is refused. -/
theorem refusal?_of_accepted (accepted : turn.isAccepted = true) :
    turn.request.refusal? = none := by
  have solid : ¬ Text.isBlankText turn.request.url = true :=
    fun blank => of_decide_eq_true accepted ((Text.isBlankText_iff _).mp blank)
  rw [NetRequest.refusal?, if_neg solid]

/-- What is wrong with a reply that has no metadata. -/
def fault (turn : NetTurn) (complain : Complaint) : String :=
  match turn.reply with
  | [] => transportFailureText
  | [] :: _ => transportFailureText
  | head :: _ => malformedMetadataText (complain head)

/-- A reply without metadata becomes the response that stands for its fault. -/
theorem ofSegments_of_unread (complain : Complaint) (unread : turn.info? = none) :
    NetResponse.ofSegments complain turn.reply = .error (.synthetic (turn.fault complain)) := by
  unfold info? at unread
  unfold fault
  split at unread
  next missing => rw [missing, NetResponse.ofSegments]
  next empty => rw [empty, NetResponse.ofSegments]
  next head rest solid found =>
    cases head with
    | nil => exact absurd rfl solid
    | cons byte bytes =>
        rw [found, NetResponse.ofSegments, unread]
        exact solid

/-- A reply with metadata becomes their response, with the second segment as its body. -/
theorem ofSegments_of_read (complain : Complaint) {info : NetMeta}
    (read : turn.info? = some info) :
    NetResponse.ofSegments complain turn.reply = .ok (.ofMeta info turn.reply[1]?) := by
  unfold info? at read
  split at read
  · cases read
  · cases read
  next head rest solid found =>
    rw [found, NetResponse.ofSegments_of_ofBytes? read complain rest, List.getElem?_cons_succ,
      List.head?_eq_getElem?]

/-- Metadata that were written first are read. -/
theorem info?_of_head {info : NetMeta} {rest : List Bytes}
    (written : turn.reply = Text.encodeUtf8 info.render :: rest) : turn.info? = some info := by
  have read := info.ofBytes?_render
  unfold info?
  rw [written]
  split
  next missing => cases missing
  next empty =>
    obtain ⟨empty, _⟩ := List.cons.inj empty
    rw [empty] at read
    cases read
  next found =>
    obtain ⟨same, _⟩ := List.cons.inj found
    rw [← same]
    exact read

/-- Metadata that were written with any body are read. -/
theorem info?_of_segments {info : NetMeta} {body : Option Bytes}
    (written : turn.reply = info.segments body) : turn.info? = some info :=
  info?_of_head written

end NetTurn

namespace NetClient

variable {turn : NetTurn} (client : NetClient) (elapsed : UInt64)

/-- A reply without metadata counts as a failed transport and is announced as such. -/
theorem settle_of_unread (unread : turn.info? = none) :
    let settled := client.settle turn.request elapsed turn.reply
    settled.response = .synthetic (turn.fault client.complain) ∧
      settled.event = .transportFailed turn.request.url (turn.fault client.complain) ∧
      settled.client.stats.calls = client.stats.calls + 1 ∧
      settled.client.stats.transportFailures = client.stats.transportFailures + 1 := by
  unfold settle
  rw [turn.ofSegments_of_unread client.complain unread]
  exact ⟨rfl, rfl, rfl, rfl⟩

/-- A reply with metadata is announced as completed, whatever its code. -/
theorem settle_of_read {info : NetMeta} (read : turn.info? = some info) :
    let settled := client.settle turn.request elapsed turn.reply
    settled.response = .ofMeta info turn.reply[1]? ∧
      settled.event = .completed turn.request.url info.code elapsed
        (NetResponse.ofMeta info turn.reply[1]?).nativeCost? ∧
      settled.client.stats.calls = client.stats.calls + 1 ∧
      settled.client.stats.transportFailures = client.stats.transportFailures := by
  unfold settle
  rw [turn.ofSegments_of_read client.complain read]
  exact ⟨rfl, rfl, rfl, rfl⟩

end NetClient

namespace NetSession

variable {session : NetSession} {turn : NetTurn}

/-- A session whose engine and clock are about to do what a turn says. -/
def facing (session : NetSession) (turn : NetTurn) : NetSession :=
  { session with replies := [turn.reply], clock := ⟨[turn.started, turn.ended]⟩ }

def take (session : NetSession) (turn : NetTurn) : NetSession × Option NetRequest × NetOutcome :=
  (session.facing turn).call turn.request

def after (session : NetSession) (turns : List NetTurn) : NetSession :=
  turns.foldl (fun session turn => (session.take turn).1) session

/-- A request without an address changes nothing. -/
theorem take_of_refused (refused : turn.isAccepted = false) :
    session.take turn =
      (session.facing turn, none, .refused (.validation "request URL is empty")) := by
  rw [NetSession.take, call, turn.refusal?_of_refused refused]

/-- Any other request is settled by the reply, announced and logged. -/
theorem take_of_accepted {elapsed : UInt64} (accepted : turn.isAccepted = true)
    (measured : turn.elapsed? = some elapsed) :
    let settled := session.client.settle turn.request elapsed turn.reply
    session.take turn =
      ({ session with
          client := settled.client
          replies := []
          clock := ⟨[turn.ended]⟩
          bus := session.bus.map (·.announce (.net settled.event))
          log := session.log ++ session.client.outgoingEntries turn.request ++ settled.log },
        some turn.request, .answered settled.response) := by
  rw [NetTurn.elapsed?] at measured
  rw [NetSession.take, call, turn.refusal?_of_accepted accepted]
  simp only [facing, takeReply, ScriptedClock.now, measured]

/-- A call whose readings of the clock cannot be subtracted has logged what it sends, and nothing
else has come of it. -/
theorem take_of_overflowed (accepted : turn.isAccepted = true)
    (overflowed : turn.elapsed? = none) :
    session.take turn =
      ({ session with
          replies := []
          clock := ⟨[turn.ended]⟩
          log := session.log ++ session.client.outgoingEntries turn.request },
        some turn.request, .overflowed) := by
  rw [NetTurn.elapsed?] at overflowed
  rw [NetSession.take, call, turn.refusal?_of_accepted accepted]
  simp only [facing, takeReply, ScriptedClock.now, overflowed]

end NetSession

end HostBridge
