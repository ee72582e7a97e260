import HostBridge.Proofs.Net.Lookup
import HostBridge.Proofs.Text.Spelling

/-!
# What calls tell the log

Whatever a call logs is told by what redaction leaves of the headers of its request and of its
response, so two runs of calls that differ in the values of sensitive headers log the same, as far
as a look-up among the headers does not depend on the order in which they are listed.

Main statements: what a run of calls logs (`NetSession.log_after`), and that it tells nothing of
sensitive headers: the logs are the same if the headers are listed in one order, and over all orders
they are the same but for the order of the printed headers if and only if the spellings of the
header with the native cost have the same to tell (`NetSession.discretion`).
-/

namespace HostBridge

open Logging (Entry isSensitive redact redactHeaders)

/-! ### What a call logs -/

/-- What is logged about a turn. -/
def NetTurn.entries (logPayloads : Bool) (complain : Complaint) (turn : NetTurn) : List Entry :=
  if turn.isAccepted then
    (NetClient.new logPayloads complain).outgoingEntries turn.request ++
      match turn.elapsed? with
      | none => []
      | some elapsed =>
        ((NetClient.new logPayloads complain).settle turn.request elapsed turn.reply).log
  else []

namespace NetSession

/-- What a call logs once it is settled tells neither who asked nor what was counted before. -/
theorem log_settle (client viewer : NetClient) (payloads : client.logPayloads = viewer.logPayloads)
    (complain : client.complain = viewer.complain) (request other : NetRequest) (elapsed : UInt64)
    (reply : List Bytes) :
    (client.settle request elapsed reply).log = (viewer.settle other elapsed reply).log := by
  unfold NetClient.settle
  rw [complain]
  cases NetResponse.ofSegments viewer.complain reply with
  | error _ => rfl
  | ok response =>
      dsimp only
      rw [NetClient.completedEntries, NetClient.completedEntries, payloads]

theorem logPayloads_settle (client : NetClient) (request : NetRequest) (elapsed : UInt64)
    (reply : List Bytes) :
    (client.settle request elapsed reply).client.logPayloads = client.logPayloads := by
  unfold NetClient.settle
  cases NetResponse.ofSegments client.complain reply <;> rfl

/-- A call logs what its turn does, and leaves the settings of the client as they are. -/
theorem log_take (session : NetSession) (turn : NetTurn) :
    (session.take turn).1.log =
        session.log ++ turn.entries session.client.logPayloads session.client.complain ∧
      (session.take turn).1.client.logPayloads = session.client.logPayloads ∧
        (session.take turn).1.client.complain = session.client.complain := by
  cases accepted : turn.isAccepted with
  | false =>
      rw [take_of_refused accepted, NetTurn.entries, accepted, if_neg Bool.false_ne_true,
        List.append_nil]
      exact ⟨rfl, rfl, rfl⟩
  | true =>
      rw [NetTurn.entries, accepted, if_pos rfl]
      cases measured : turn.elapsed? with
      | none =>
          rw [take_of_overflowed accepted measured, List.append_nil]
          exact ⟨rfl, rfl, rfl⟩
      | some elapsed =>
          rw [take_of_accepted accepted measured]
          refine ⟨?_, logPayloads_settle _ _ _ _, complain_settle _ _ _ _⟩
          have log := log_settle session.client
            (NetClient.new session.client.logPayloads session.client.complain) rfl rfl turn.request
            turn.request elapsed turn.reply
          dsimp only
          rw [log, List.append_assoc]
          rfl

/-- A run of calls logs what each of its turns does. -/
theorem log_after (session : NetSession) (turns : List NetTurn) :
    (session.after turns).log = session.log ++
      turns.flatMap (NetTurn.entries session.client.logPayloads session.client.complain) := by
  induction turns generalizing session with
  | nil => exact (List.append_nil _).symm
  | cons turn turns ih =>
      obtain ⟨log, payloads, complain⟩ := session.log_take turn
      have rest := ih (session.take turn).1
      rw [log, payloads, complain, List.append_assoc] at rest
      rw [List.flatMap_cons]
      exact rest

end NetSession

/-! ### Entries that print a map -/

namespace Logging

/-- Two log entries that are the same but for the order in which a printed map lists its entries. -/
inductive SameButOrder : Entry → Entry → Prop where
  | same (entry : Entry) : SameButOrder entry entry
  | printed (level : Level) (target message name : String)
      (before after : List (String × String)) (span : Option String)
      {map other : List (String × String)} (perm : map.Perm other) :
      SameButOrder
        (.record level target message (before ++ (name, Text.showTextMap map) :: after) span)
        (.record level target message (before ++ (name, Text.showTextMap other) :: after) span)

theorem SameButOrder.all (entries : List Entry) : List.Forall₂ SameButOrder entries entries :=
  List.forall₂_same.mpr (fun entry _ => .same entry)

/-- An entry with more fields, as a sink receives them. -/
def Entry.adding (entry : Entry) (fields : List (String × String)) : Entry :=
  fields.foldl (fun entry field => entry.withField field.1 (redact field.1 field.2)) entry

/-- A field of an entry is one of those that were added, or was there before. -/
theorem Entry.find?_adding (name : String) (fields : List (String × String))
    (entry other : Entry) :
    (entry.adding fields).fields.find? name = (other.adding fields).fields.find? name ∨
      (entry.adding fields).fields.find? name = entry.fields.find? name ∧
        (other.adding fields).fields.find? name = other.fields.find? name := by
  induction fields generalizing entry other with
  | nil => exact .inr ⟨rfl, rfl⟩
  | cons field fields ih =>
      have set (entry : Entry) :
          (entry.withField field.1 (redact field.1 field.2)).fields.find? name =
            if name = field.1 then some (redact field.1 field.2) else entry.fields.find? name :=
        Table.find?_insert _ _ _ _
      rcases ih (entry.withField field.1 (redact field.1 field.2))
        (other.withField field.1 (redact field.1 field.2)) with same | ⟨found, finds⟩
      · exact .inl same
      · rw [set] at found finds
        by_cases named : name = field.1
        · rw [if_pos named] at found finds
          exact .inl (found.trans finds.symm)
        · rw [if_neg named] at found finds
          exact .inr ⟨found, finds⟩

/-- A field of two entries that are the same but for the order of a printed map is the same in both,
or it is that map. -/
theorem SameButOrder.find?_eq_or {entry other : Entry} (same : SameButOrder entry other)
    (name : String) : entry.fields.find? name = other.fields.find? name ∨ ∃ map others,
      entry.fields.find? name = some (redact name (Text.showTextMap map)) ∧
        other.fields.find? name = some (redact name (Text.showTextMap others)) := by
  cases same with
  | same => exact .inl rfl
  | @printed level target message key before after span map others _ =>
      let bare := (Entry.new level target message).adding before
      have made (map : List (String × String)) : (Entry.record level target message
          (before ++ (key, Text.showTextMap map) :: after) span).fields.find? name =
            ((bare.withField key (redact key (Text.showTextMap map))).adding after).fields.find?
              name := by
        unfold Entry.record
        dsimp only
        rw [List.foldl_append]
        rfl
      have set (map : List (String × String)) :
          (bare.withField key (redact key (Text.showTextMap map))).fields.find? name =
            if name = key then some (redact key (Text.showTextMap map))
            else bare.fields.find? name := Table.find?_insert _ _ _ _
      rw [made, made]
      rcases Entry.find?_adding name after (bare.withField key (redact key (Text.showTextMap map)))
        (bare.withField key (redact key (Text.showTextMap others))) with same | ⟨found, finds⟩
      · exact .inl same
      · rw [found, finds, set, set]
        by_cases named : name = key
        · rw [if_pos named, if_pos named, named]
          exact .inr ⟨map, others, rfl, rfl⟩
        · rw [if_neg named, if_neg named]
          exact .inl rfl

theorem toString_injective {number other : ℕ} (same : toString number = toString other) :
    number = other := by
  have digits := congrArg String.toList same
  rw [Nat.toString_eq_repr, Nat.toString_eq_repr, Nat.toList_repr, Nat.toList_repr] at digits
  rw [← @Nat.ofDigitChars_ten_toDigits number, digits, Nat.ofDigitChars_ten_toDigits]

/-- The text of a number is not that of a map. -/
theorem toString_ne_showTextMap (number : ℕ) (map : List (String × String)) :
    toString number ≠ Text.showTextMap map := by
  intro same
  have braced : '\x7b' ∈ (Text.showTextMap map).toList := by
    unfold Text.showTextMap
    rw [String.append_assoc, String.toList_append]
    exact List.mem_append_left _ List.mem_cons_self
  rw [← same, Nat.toString_eq_repr, Nat.toList_repr] at braced
  exact absurd (Nat.isDigit_of_mem_toDigits (by decide) (by decide) braced) (by decide)

end Logging

/-! ### Parts of related lists -/

section Parts

variable {α : Type} {relation : α → α → Prop} {first second rest others : List α}

/-- What follows parts of one length is related as the whole is. -/
theorem forall₂_of_append (same : first.length = second.length)
    (all : List.Forall₂ relation (first ++ rest) (second ++ others)) :
    List.Forall₂ relation rest others := by
  have dropped := List.forall₂_drop_append _ _ _ all
  rwa [← same, List.drop_left] at dropped

theorem forall₂_of_append_right
    (all : List.Forall₂ relation (first ++ rest) (second ++ rest)) :
    List.Forall₂ relation first second := by
  have same := all.length_eq
  rw [List.length_append, List.length_append] at same
  have taken := List.forall₂_take_append _ _ _ all
  rwa [← Nat.add_right_cancel same, List.take_left] at taken

end Parts

/-! ### Calls that differ in their headers -/

namespace NetClient

open Logging (SameButOrder Agrees)

variable {response other : NetResponse} {info : NetMeta} {headers : Headers}

/-- The time that a request took within the native side is told under no sensitive name. -/
theorem plain_nativeCost {name : String} (named : sameIgnoringCase name nativeCostHeader = true) :
    isSensitive name = false := by
  have same : name.toList.map Char.toLower = nativeCostHeader.toList.map Char.toLower :=
    of_decide_eq_true named
  rw [Logging.isSensitive_of_toLower same]
  decide

/-- What is left of headers tells that time. -/
theorem nativeCost?_of_redacted
    (same : redactHeaders response.headers.entries = redactHeaders other.headers.entries) :
    response.nativeCost? = other.nativeCost? := by
  have found (response : NetResponse) : response.header? nativeCostHeader =
      ((redactHeaders response.headers.entries).find?
        (fun entry => sameIgnoringCase entry.1 nativeCostHeader)).map Prod.snd := by
    rw [Logging.find?_redactHeaders _ (sameIgnoringCase · nativeCostHeader)
      (fun _ => plain_nativeCost)]
    rfl
  rw [NetResponse.nativeCost?_eq_bind, NetResponse.nativeCost?_eq_bind, found, found, same]

/-- Headers that differ in the values of sensitive names hold the same under the name of that
time. -/
theorem holds_nativeCost_iff (agrees : Agrees info.headers headers) (body : Option Bytes)
    (value : String) :
    (NetResponse.ofMeta { info with headers := headers } body).Holds nativeCostHeader value ↔
      (NetResponse.ofMeta info body).Holds nativeCostHeader value := by
  refine exists_congr fun spelling => and_congr_right fun named => ?_
  have same := agrees.plain spelling (plain_nativeCost named)
  exact iff_of_eq (congrArg (· = some value) same.symm)

/-- Requests that differ in the values of sensitive headers are logged alike. -/
theorem outgoingEntries_of_agrees {request another : NetRequest}
    (body : request.body = another.body) (agrees : Agrees request.headers another.headers)
    (client : NetClient) :
    List.Forall₂ SameButOrder (client.outgoingEntries request) (client.outgoingEntries another) := by
  rw [outgoingEntries, outgoingEntries, body]
  split
  · exact .cons (.printed _ _ _ _ [] _ _ agrees.perm) .nil
  · exact .nil

/-- The first entry about a response tells the time, and the second one prints the headers. -/
theorem completedEntries_of_agrees (agrees : Agrees info.headers headers) {body : Option Bytes}
    (cost : (NetResponse.ofMeta { info with headers := headers } body).nativeCost? =
      (NetResponse.ofMeta info body).nativeCost?) (client : NetClient) (elapsed : UInt64) :
    List.Forall₂ SameButOrder (client.completedEntries (.ofMeta info body) elapsed)
      (client.completedEntries (.ofMeta { info with headers := headers } body) elapsed) := by
  rw [completedEntries, completedEntries, cost]
  refine .cons (.same _) ?_
  split
  · exact .cons (.printed _ _ _ _ [] [] _ agrees.perm) .nil
  · exact .nil

/-- Responses that list their headers in one order are logged the same. -/
theorem completedEntries_of_aligned (aligned : Logging.Aligned info.headers headers)
    (client : NetClient) (body : Option Bytes) (elapsed : UInt64) :
    client.completedEntries (.ofMeta info body) elapsed =
      client.completedEntries (.ofMeta { info with headers := headers } body) elapsed := by
  have same := aligned.redactHeaders_eq aligned.order
  have cost : (NetResponse.ofMeta info body).nativeCost? =
      (NetResponse.ofMeta { info with headers := headers } body).nativeCost? :=
    nativeCost?_of_redacted same
  have shown : shownHeaders info.headers = shownHeaders headers := congrArg Text.showTextMap same
  unfold completedEntries
  rw [cost]
  dsimp only [NetResponse.ofMeta]
  rw [shown]
  rfl

/-- The field of an entry with the time that a request took within the native side. -/
def costField : String := "native_cost_ms"

/-- The first entry about a response holds the native cost, if there is one. -/
theorem find?_costField (client : NetClient) (response : NetResponse) (elapsed : UInt64) :
    ∃ entry rest, client.completedEntries response elapsed = entry :: rest ∧
      entry.fields.find? costField =
        response.nativeCost?.map (fun cost => toString cost.toNat) := by
  refine ⟨_, _, rfl, ?_⟩
  have plain (text : String) : redact "native_cost_ms" text = text :=
    Logging.redact_of_plain (by decide) text
  cases response.nativeCost? with
  | none => cases response.currentUrl <;> rfl
  | some cost =>
      cases response.currentUrl <;>
        simp [log, Entry.record, Entry.withField, costField, Table.find?_insert, plain]

/-- What is logged about two responses is the same but for the order of printed headers only if they
tell the same time. -/
theorem nativeCost?_of_sameButOrder {client : NetClient} {elapsed : UInt64}
    (same : List.Forall₂ SameButOrder (client.completedEntries response elapsed)
      (client.completedEntries other elapsed)) : response.nativeCost? = other.nativeCost? := by
  obtain ⟨entry, rest, told, cost⟩ := client.find?_costField response elapsed
  obtain ⟨another, others, tells, costs⟩ := client.find?_costField other elapsed
  rw [told, tells, List.forall₂_cons] at same
  rcases same.1.find?_eq_or costField with equal | ⟨map, _, printed, _⟩
  · rw [cost, costs] at equal
    refine Option.map_injective (fun first second equal => ?_) equal
    exact UInt64.toNat_inj.mp (Logging.toString_injective equal)
  · -- The text of a number is not printed as a map.
    rw [cost] at printed
    obtain ⟨number, _, text⟩ := Option.map_eq_some_iff.mp printed
    exact absurd text (Logging.toString_ne_showTextMap _ _)

end NetClient

namespace NetTurn

open Logging (SameButOrder Agrees)

variable {turn other : NetTurn} {relation : Headers → Headers → Prop}

/-- A call with metadata logs its response. -/
theorem settle_log_of_read {info : NetMeta} (read : turn.info? = some info) (client : NetClient)
    (elapsed : UInt64) :
    (client.settle turn.request elapsed turn.reply).log =
      client.completedEntries (.ofMeta info turn.reply[1]?) elapsed := by
  unfold NetClient.settle
  rw [turn.ofSegments_of_read client.complain read]

/-- Calls with the same reply log the same once they are settled, and otherwise what the headers of
their replies have them log. -/
theorem Alike.settle_log (alike : Alike relation turn other)
    {related : List Entry → List Entry → Prop} (refl : ∀ entries, related entries entries)
    (client : NetClient) (elapsed : UInt64)
    (completed : ∀ info headers, turn.info? = some info →
      other.info? = some { info with headers := headers } → relation info.headers headers →
        turn.reply[1]? = other.reply[1]? →
          related (client.completedEntries (.ofMeta info turn.reply[1]?) elapsed)
            (client.completedEntries (.ofMeta { info with headers := headers } turn.reply[1]?)
              elapsed)) :
    related (client.settle turn.request elapsed turn.reply).log
      (client.settle other.request elapsed other.reply).log := by
  rcases alike.reply with same | ⟨info, headers, read, reads, agree, rest⟩
  · rw [same, NetSession.log_settle client client rfl rfl turn.request other.request]
    exact refl _
  · have body : turn.reply[1]? = other.reply[1]? := by
      rw [← List.getElem?_tail, rest, List.getElem?_tail]
    rw [settle_log_of_read read, settle_log_of_read reads, ← body]
    exact completed info headers read reads agree body

/-- Calls whose headers are listed in one order log the same. -/
theorem entries_of_aligned (alike : Alike Logging.Aligned turn other) (logPayloads : Bool)
    (complain : Complaint) :
    turn.entries logPayloads complain = other.entries logPayloads complain := by
  let client := NetClient.new logPayloads complain
  have sent : client.outgoingEntries turn.request = client.outgoingEntries other.request := by
    have shown : NetClient.shownHeaders turn.request.headers =
        NetClient.shownHeaders other.request.headers :=
      congrArg Text.showTextMap (alike.headers.redactHeaders_eq alike.headers.order)
    rw [NetClient.outgoingEntries, NetClient.outgoingEntries, shown, alike.request]
  rw [NetTurn.entries, NetTurn.entries, alike.isAccepted, alike.elapsed?, sent]
  cases turn.elapsed? with
  | none => rfl
  | some elapsed =>
      have settled := alike.settle_log (fun _ => Eq.refl _) client elapsed
        fun info headers _ _ aligned _ =>
          NetClient.completedEntries_of_aligned aligned client turn.reply[1]? elapsed
      dsimp only
      rw [settled]

/-- A timed call logs its request and then its response. -/
theorem entries_of_timed {elapsed : UInt64} (accepted : turn.isAccepted = true)
    (measured : turn.elapsed? = some elapsed) (logPayloads : Bool) (complain : Complaint) :
    turn.entries logPayloads complain =
      (NetClient.new logPayloads complain).outgoingEntries turn.request ++
        ((NetClient.new logPayloads complain).settle turn.request elapsed turn.reply).log := by
  rw [NetTurn.entries, accepted, if_pos rfl, measured]

/-- The response to a call that was answered tells the time that its reply does. -/
theorem costText?_of_read {info : NetMeta} (read : turn.info? = some info) :
    turn.costText?.bind readCost = (NetResponse.ofMeta info turn.reply[1]?).nativeCost? := by
  rw [costText?, read, NetResponse.nativeCost?_eq_bind]
  rfl

/-- Calls that differ in the values of sensitive headers, and perhaps in the order of headers, log
the same but for the order of printed headers if and only if they are told the same time. -/
theorem Alike.entries_iff (alike : Alike Agrees turn other) (logPayloads : Bool)
    (complain : Complaint) :
    List.Forall₂ SameButOrder (turn.entries logPayloads complain)
        (other.entries logPayloads complain) ↔
      (turn.isTimed = true →
        other.costText?.bind readCost = turn.costText?.bind readCost) := by
  let client := NetClient.new logPayloads complain
  have sent := NetClient.outgoingEntries_of_agrees (by rw [alike.request]) alike.headers client
  cases accepted : turn.isAccepted with
  | false =>
      rw [NetTurn.entries, NetTurn.entries, alike.isAccepted, accepted, NetTurn.isTimed, accepted]
      exact iff_of_true .nil fun timed => absurd timed Bool.false_ne_true
  | true =>
      cases measured : turn.elapsed? with
      | none =>
          rw [NetTurn.entries, NetTurn.entries, alike.isAccepted, alike.elapsed?, accepted, measured,
            NetTurn.isTimed, accepted, measured]
          exact iff_of_true (List.rel_append sent .nil) fun timed => absurd timed Bool.false_ne_true
      | some elapsed =>
          have timed : turn.isTimed = true := by
            rw [NetTurn.isTimed, accepted, measured]
            rfl
          rw [entries_of_timed accepted measured,
            entries_of_timed (alike.isAccepted.trans accepted) (alike.elapsed?.trans measured)]
          refine Iff.trans ⟨fun same => ?_, fun cost => ?_⟩ (forall_prop_of_true timed).symm
          · have settled := forall₂_of_append sent.length_eq same
            rcases alike.reply with equal | ⟨info, headers, read, reads, _, rest⟩
            · rw [costText?, costText?, info?, info?, equal]
            · rw [settle_log_of_read read, settle_log_of_read reads] at settled
              rw [costText?_of_read read, costText?_of_read reads]
              exact (NetClient.nativeCost?_of_sameButOrder settled).symm
          · refine List.rel_append sent (alike.settle_log SameButOrder.all client elapsed ?_)
            intro info headers read reads agrees body
            rw [costText?_of_read read, costText?_of_read reads, ← body] at cost
            exact NetClient.completedEntries_of_agrees agrees cost client elapsed

end NetTurn

/-! ### Runs of calls -/

namespace NetSession

open Logging (SameButOrder Reorders Aligned Agrees Emission Filter Sink)

variable {session : NetSession} {turns others : List NetTurn}

/-- Runs that list their headers in one order log the same. -/
theorem log_after_of_aligned (session : NetSession)
    (aligned : List.Forall₂ (NetTurn.Alike Aligned) turns others) :
    (session.after turns).log = (session.after others).log := by
  rw [log_after, log_after]
  congr 1
  induction aligned with
  | nil => rfl
  | cons here _ ih =>
      rw [List.flatMap_cons, List.flatMap_cons, NetTurn.entries_of_aligned here, ih]

/-- Every timed call of a run tells the same time whichever of its headers are found first. -/
theorem log_after_of_tellsAlike (session : NetSession)
    (agree : List.Forall₂ (NetTurn.Alike Agrees) turns others)
    (tells : ∀ turn ∈ turns, turn.isTimed = true → turn.TellsAlike) :
    List.Forall₂ SameButOrder (session.after turns).log (session.after others).log := by
  rw [log_after, log_after]
  refine List.rel_append (SameButOrder.all _) ?_
  induction agree with
  | nil => exact .nil
  | cons here _ ih =>
      obtain ⟨first, rest⟩ := List.forall_mem_cons.mp tells
      rw [List.flatMap_cons, List.flatMap_cons]
      refine List.rel_append ((here.entries_iff _ _).mpr fun timed => ?_) (ih rest)
      exact NetTurn.read_costText?_of_alike (first timed)
        (fun info headers body value agrees => NetClient.holds_nativeCost_iff agrees body value) here

/-- Two runs that differ in one call log the same there if they log the same. -/
theorem entries_of_log (before after : List NetTurn) {turn other : NetTurn}
    (same : List.Forall₂ SameButOrder (session.after (before ++ turn :: after)).log
      (session.after (before ++ other :: after)).log) :
    List.Forall₂ SameButOrder
      (turn.entries session.client.logPayloads session.client.complain)
      (other.entries session.client.logPayloads session.client.complain) := by
  let entries := NetTurn.entries session.client.logPayloads session.client.complain
  have logged (turn : NetTurn) : (session.after (before ++ turn :: after)).log =
      (session.log ++ before.flatMap entries) ++ (entries turn ++ after.flatMap entries) := by
    rw [log_after, List.flatMap_append, List.flatMap_cons, List.append_assoc]
  rw [logged, logged] at same
  exact forall₂_of_append_right (forall₂_of_append (Eq.refl (session.log ++ _).length) same)

/-- Over all orders of the headers a run logs the same but for the order of the printed headers if
and only if the spellings of the header with the native cost tell the same in each timed call. -/
theorem log_relisted_iff (session : NetSession) (turns : List NetTurn) :
    (∀ others, List.Forall₂ (NetTurn.Alike Agrees) turns others →
        List.Forall₂ SameButOrder (session.after turns).log (session.after others).log) ↔
      ∀ turn ∈ turns, turn.isTimed = true → turn.TellsAlike := by
  refine ⟨fun same turn made timed => ?_, fun tells others agree =>
    session.log_after_of_tellsAlike agree tells⟩
  obtain ⟨before, after, rfl⟩ := List.append_of_mem made
  have all (calls : List NetTurn) : List.Forall₂ (NetTurn.Alike Agrees) calls calls :=
    List.forall₂_same.mpr fun turn _ => .refl (fun _ => Reorders.agrees (.refl _)) turn
  -- The call tells the time of any spelling of its own that is listed first.
  have told (info : NetMeta) (read : turn.info? = some info) (value : String)
      (held : (NetResponse.ofMeta info turn.reply[1]?).Holds nativeCostHeader value) :
      (some value).bind readCost = turn.costText?.bind readCost := by
    obtain ⟨other, alike, text⟩ := NetTurn.exists_costText?_eq read held
    have agrees : NetTurn.Alike Agrees turn other := alike.mono Reorders.agrees
    have entries := entries_of_log before after
      (same _ (List.rel_append (all before) (.cons agrees (all after))))
    rw [← (agrees.entries_iff _ _).mp entries timed, text]
  intro info read value other held also
  exact (told info read value held).trans (told info read other also).symm

/-- The values of sensitive headers, in requests and in metadata that can be read, leave no trace in
what a run of calls logs.  The log is the same if both runs list their headers in one order, and for
any orders it is the same as that of the other run with its headers listed anew.  Of two runs that
list their headers in any orders the logs differ in the order of the printed headers at most, if and
only if no timed call is told different times by different spellings of one header. -/
theorem discretion (session : NetSession) :
    Logging.Sensitivity ∧ Logging.Masking ∧
      (∀ (sink : Sink) (filter : Filter) (emission other : Emission), emission.Agrees other →
        sink.receive filter emission = sink.receive filter other) ∧
      (∀ turns others, List.Forall₂ (NetTurn.Alike Aligned) turns others →
        (session.after turns).log = (session.after others).log) ∧
      (∀ turns others, List.Forall₂ (NetTurn.Alike Agrees) turns others →
        ∃ reordered, List.Forall₂ (NetTurn.Alike Reorders) others reordered ∧
          (session.after turns).log = (session.after reordered).log) ∧
      ∀ turns, (∀ others, List.Forall₂ (NetTurn.Alike Agrees) turns others →
          List.Forall₂ SameButOrder (session.after turns).log (session.after others).log) ↔
        ∀ turn ∈ turns, turn.isTimed = true → turn.TellsAlike := by
  refine ⟨Logging.sensitivity, Logging.masking, ?_, ?_, ?_, session.log_relisted_iff⟩
  · intro sink filter emission other agrees
    exact sink.receive_of_agrees filter agrees
  · intro turns others aligned
    exact session.log_after_of_aligned aligned
  · intro turns others agree
    obtain ⟨reordered, reorders, aligned⟩ := NetTurn.exists_arranged agree
    exact ⟨reordered, reorders, session.log_after_of_aligned aligned⟩

/-- Two calls with other credentials and other cookies. -/
theorem discretion_of_credentials :
    let info (cookie : String) : NetMeta :=
      ⟨200, none, none, Table.empty.insert "Set-Cookie" cookie, none, none⟩
    let turn (key cookie : String) : NetTurn :=
      ⟨(NetRequest.get "http://a").withHeader "X-API-Key" key, (info cookie).segments none, 3, 5⟩
    let session := NetSession.new true .silent false false []
    List.Forall₂ (NetTurn.Alike Aligned) [turn "1" "sid=1"] [turn "2" "sid=2"] ∧
      NetTurn.TellsAlike (turn "1" "sid=1") ∧
      (session.after [turn "1" "sid=1"]).log = (session.after [turn "2" "sid=2"]).log ∧
      (∃ reordered, List.Forall₂ (NetTurn.Alike Reorders) [turn "2" "sid=2"] reordered ∧
        (session.after [turn "1" "sid=1"]).log = (session.after reordered).log) ∧
      List.Forall₂ SameButOrder (session.after [turn "1" "sid=1"]).log
        (session.after [turn "2" "sid=2"]).log := by
  intro info turn session
  have secret : isSensitive "X-API-Key" = true := by decide
  have hidden : isSensitive "Set-Cookie" = true := by decide
  have told (key cookie : String) : (turn key cookie).info? = some (info cookie) :=
    NetTurn.info?_of_segments rfl
  have bodiless (key cookie : String) : (turn key cookie).reply.tail = [] := rfl
  have alike {relation : Headers → Headers → Prop}
      (request : relation (turn "1" "sid=1").request.headers (turn "2" "sid=2").request.headers)
      (reply : relation (info "sid=1").headers (info "sid=2").headers) :
      NetTurn.Alike relation (turn "1" "sid=1") (turn "2" "sid=2") :=
    ⟨rfl, request, .inr ⟨info "sid=1", (info "sid=2").headers, told _ _, told _ _, reply,
      (bodiless _ _).trans (bodiless _ _).symm⟩, rfl, rfl⟩
  have keys := Logging.aligned_insert secret Table.empty "1" "2"
  have cookies := Logging.aligned_insert hidden Table.empty "sid=1" "sid=2"
  have aligned : List.Forall₂ (NetTurn.Alike Aligned) [turn "1" "sid=1"] [turn "2" "sid=2"] :=
    .cons (alike keys cookies) .nil
  have agree : List.Forall₂ (NetTurn.Alike Agrees) [turn "1" "sid=1"] [turn "2" "sid=2"] :=
    .cons (alike keys.toAgrees cookies.toAgrees) .nil
  -- No header of the reply is a spelling of the one that tells the cost.
  have tells : NetTurn.TellsAlike (turn "1" "sid=1") := by
    rintro found read value other ⟨spelling, named, listed⟩ _
    obtain rfl := Option.some.inj ((told _ _).symm.trans read)
    have present := List.mem_singleton.mp ((Table.mem_entries_iff _ _ _).mpr listed)
    rw [(Prod.mk.inj present).1] at named
    exact absurd named (by decide)
  obtain ⟨_, _, _, same, anew, printed⟩ := session.discretion
  exact ⟨aligned, tells, same _ _ aligned, anew _ _ agree,
    (printed _).mpr (List.forall_mem_singleton.mpr fun _ => tells) _ agree⟩

/-- Two calls with other credentials, of which the one is told a time of 1 first and the other a
time of 2: their logs differ in more than the order of the printed headers. -/
theorem logs_differ :
    let info (headers : Headers) : NetMeta := ⟨200, none, none, headers, none, none⟩
    let turn (key : String) (headers : Headers) : NetTurn :=
      ⟨(NetRequest.get "http://a").withHeader "X-API-Key" key, (info headers).segments none, 3, 5⟩
    let one := (Table.empty.insert "X-Native-Cost" "1").insert nativeCostHeader "2"
    let two := (Table.empty.insert nativeCostHeader "2").insert "X-Native-Cost" "1"
    let session := NetSession.new true .silent false false []
    Reorders one two ∧ NetTurn.Alike Agrees (turn "1" one) (turn "2" two) ∧
      ¬ List.Forall₂ SameButOrder (session.after [turn "1" one]).log
        (session.after [turn "2" two]).log := by
  intro info turn one two session
  have secret : isSensitive "X-API-Key" = true := by decide
  have keys := Logging.aligned_insert secret Table.empty "1" "2"
  have reorders : Reorders one two := .swap _ _ _
  have read (key : String) (headers : Headers) :
      (turn key headers).info? = some (info headers) := NetTurn.info?_of_segments rfl
  have bodiless (key : String) (headers : Headers) : (turn key headers).reply.tail = [] := rfl
  have alike : NetTurn.Alike Agrees (turn "1" one) (turn "2" two) :=
    ⟨rfl, keys.toAgrees, .inr ⟨info one, two, read _ _, read _ _, reorders.agrees,
      (bodiless _ _).trans (bodiless _ _).symm⟩, rfl, rfl⟩
  refine ⟨reorders, alike, fun same => ?_⟩
  have solid : decide (Text.trim "http://a" ≠ "") = true := by decide
  have apart : (elapsedMs? 3 5).isSome = true := by decide
  have timed : (turn "1" one).isTimed = true := (Bool.and_eq_true _ _).mpr ⟨solid, apart⟩
  have entries := entries_of_log [] [] same
  have costs := (alike.entries_iff _ _).mp entries timed
  rw [NetTurn.costText?_of_read (read _ _), NetTurn.costText?_of_read (read _ _)] at costs
  exact absurd costs (by decide)

end NetSession

end HostBridge
