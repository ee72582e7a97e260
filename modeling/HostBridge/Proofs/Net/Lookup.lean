import HostBridge.Proofs.Event.Announcing
import HostBridge.Proofs.Net.Alike
import HostBridge.Proofs.Net.Totals

/-!
# Names of header fields that differ in case

Header fields are kept by their names as written and looked up without regard to case, so several of
them may answer to one name.  A look-up finds the one that is listed first, and in which order they
are listed is not for the client to say.

Main statements: what a look-up finds over all orders (`NetResponse.lookup`), and which responses
and which runs of calls are told the same in all of them (`NetSession.lookups`).
-/

namespace HostBridge

/-! ### Responses -/

/-- The milliseconds that the text of a header field tells. -/
def readCost (text : String) : Option UInt64 := (Text.readUInt64 (Text.trim text)).toOption

namespace NetResponse

variable {response other : NetResponse} {name value : String}

/-- Two responses that differ at most in the order in which their header fields are listed. -/
structure Reorders (response other : NetResponse) : Prop where
  headers : Logging.Reorders response.headers other.headers
  rest : other = { response with headers := other.headers }

/-- Some spelling of a name has the value. -/
def Holds (response : NetResponse) (name value : String) : Prop :=
  ∃ spelling, sameIgnoringCase spelling name = true ∧
    response.headers.find? spelling = some value

/-- The values that the spellings of a name have are read alike. -/
def Concurs {β : Type} (response : NetResponse) (name : String) (read : Option String → β) : Prop :=
  ∀ value other, response.Holds name value → response.Holds name other →
    read (some value) = read (some other)

/-- The order in which fields are listed has no part in what their names hold. -/
theorem Reorders.holds_iff (reorders : response.Reorders other) :
    other.Holds name value ↔ response.Holds name value := by
  refine exists_congr fun spelling => and_congr_right fun _ => ?_
  rw [← Table.mem_entries_iff, ← Table.mem_entries_iff]
  exact reorders.headers.mem_iff.symm

/-- What a look-up finds is the value of some spelling. -/
theorem holds_of_header? (found : response.header? name = some value) :
    response.Holds name value := by
  obtain ⟨⟨spelling, _⟩, listed, rfl⟩ := Option.map_eq_some_iff.mp found
  have named : sameIgnoringCase spelling name = true := by simpa using List.find?_some listed
  exact ⟨spelling, named, (Table.mem_entries_iff _ _ _).mp (List.mem_of_find?_eq_some listed)⟩

/-- A look-up finds nothing just where no spelling has a value. -/
theorem header?_eq_none_iff :
    response.header? name = none ↔ ∀ value, ¬ response.Holds name value := by
  rw [header?, Option.map_eq_none_iff, List.find?_eq_none]
  constructor
  · rintro unnamed value ⟨spelling, named, found⟩
    exact unnamed _ ((Table.mem_entries_iff _ _ _).mpr found) named
  · rintro unheld ⟨spelling, value⟩ listed named
    exact unheld value ⟨spelling, named, (Table.mem_entries_iff _ _ _).mp listed⟩

/-- Any value that some spelling has is found if that spelling is listed first. -/
theorem exists_header?_eq (held : response.Holds name value) :
    ∃ other, response.Reorders other ∧ other.header? name = some value := by
  obtain ⟨spelling, named, found⟩ := held
  have moved := List.perm_cons_erase ((Table.mem_entries_iff _ _ _).mpr found)
  have nodup := (moved.map Prod.fst).nodup response.headers.nodup
  refine ⟨{ response with headers := ⟨_, nodup⟩ }, ⟨moved, rfl⟩, ?_⟩
  rw [header?, List.find?_cons, named]
  rfl

/-- Where the same values are held under a name, and read alike, the same is read off a look-up. -/
theorem read_header?_of_holds {β : Type} {read : Option String → β}
    (concurs : response.Concurs name read)
    (same : ∀ value, other.Holds name value ↔ response.Holds name value) :
    read (other.header? name) = read (response.header? name) := by
  cases found : response.header? name with
  | none =>
      have unheld := header?_eq_none_iff.mp found
      have missing : other.header? name = none :=
        header?_eq_none_iff.mpr fun value held => unheld value ((same value).mp held)
      rw [missing]
  | some value =>
      have held := holds_of_header? found
      cases also : other.header? name with
      | none => exact absurd ((same value).mpr held) (header?_eq_none_iff.mp also value)
      | some text => exact concurs _ _ ((same text).mp (holds_of_header? also)) held

/-- What is read off a look-up is the same in any two orders if and only if all spellings of the
name are read alike. -/
theorem read_header?_iff {β : Type} (name : String) (read : Option String → β) :
    (∀ first second, response.Reorders first → response.Reorders second →
        read (first.header? name) = read (second.header? name)) ↔ response.Concurs name read := by
  constructor
  · intro same value other held also
    obtain ⟨first, reorders, found⟩ := exists_header?_eq held
    obtain ⟨second, reordered, finds⟩ := exists_header?_eq also
    rw [← found, ← finds]
    exact same first second reorders reordered
  · intro concurs first second reorders reordered
    exact (read_header?_of_holds concurs fun _ => reorders.holds_iff).trans
      (read_header?_of_holds concurs fun _ => reordered.holds_iff).symm

/-- What a look-up finds, over all orders in which the header fields may be listed. -/
structure Lookup (response : NetResponse) (name : String) : Prop where
  absent : response.header? name = none ↔ ∀ value, ¬ response.Holds name value
  /-- It finds any value that some spelling of the name has, and no others. -/
  found : ∀ value, (∃ other, response.Reorders other ∧ other.header? name = some value) ↔
    response.Holds name value
  /-- It finds the same in any two orders if and only if all spellings have the same value. -/
  same : (∀ first second, response.Reorders first → response.Reorders second →
      first.header? name = second.header? name) ↔
    ∀ value other, response.Holds name value → response.Holds name other → value = other

/-- Every response and every name are looked up that way. -/
theorem lookup (response : NetResponse) (name : String) : response.Lookup name where
  absent := header?_eq_none_iff
  found value := by
    refine ⟨?_, exists_header?_eq⟩
    rintro ⟨other, reorders, found⟩
    exact reorders.holds_iff.mp (holds_of_header? found)
  same := by
    refine (read_header?_iff name id).trans ?_
    simp only [Concurs, id, Option.some.injEq]

/-- The native cost is read off a look-up. -/
theorem nativeCost?_eq_bind (response : NetResponse) :
    response.nativeCost? = (response.header? nativeCostHeader).bind readCost := by
  unfold nativeCost? readCost
  rfl

/-- The native cost is the same in any two orders if and only if all spellings tell it alike. -/
theorem nativeCost?_iff :
    (∀ first second, response.Reorders first → response.Reorders second →
        first.nativeCost? = second.nativeCost?) ↔
      ∀ value other, response.Holds nativeCostHeader value →
        response.Holds nativeCostHeader other → readCost value = readCost other := by
  have read := response.read_header?_iff nativeCostHeader (·.bind readCost)
  simp only [Concurs, Option.bind_some, ← nativeCost?_eq_bind] at read
  exact read

end NetResponse

/-! ### Calls -/

namespace NetTurn

open Logging (Reorders)

variable {turn other : NetTurn}

/-- The text of the header field with the time within the native side. -/
def costText? (turn : NetTurn) : Option String :=
  turn.info?.bind fun info => (NetResponse.ofMeta info turn.reply[1]?).header? nativeCostHeader

/-- The spellings of that header field are read alike. -/
def Concurs {β : Type} (turn : NetTurn) (read : Option String → β) : Prop :=
  ∀ info, turn.info? = some info →
    (NetResponse.ofMeta info turn.reply[1]?).Concurs nativeCostHeader read

/-- All spellings tell the same time, or none. -/
def TellsAlike (turn : NetTurn) : Prop := turn.Concurs (·.bind readCost)

/-- All spellings are counted for the same time, which is 0 where they tell none. -/
def CountsAlike (turn : NetTurn) : Prop := turn.Concurs (fun text => (text.bind readCost).getD 0)

/-- Whether a call is timed does not depend on the order of its headers. -/
theorem Alike.isTimed (alike : Alike Reorders turn other) : other.isTimed = turn.isTimed := by
  rw [NetTurn.isTimed, NetTurn.isTimed, alike.isAccepted, alike.elapsed?]

/-- Nor does it whether the reply has metadata. -/
theorem Alike.isNone_info? (alike : Alike Reorders turn other) :
    other.info?.isNone = turn.info?.isNone := by
  rcases alike.reply with same | ⟨info, headers, found, finds, _⟩
  · rw [info?, info?, same]
  · rw [found, finds]
    rfl

/-- A call can be told again such that any given spelling is found first. -/
theorem exists_costText?_eq {info : NetMeta} {value : String} (read : turn.info? = some info)
    (held : (NetResponse.ofMeta info turn.reply[1]?).Holds nativeCostHeader value) :
    ∃ other, Alike Reorders turn other ∧ other.costText? = some value := by
  obtain ⟨listed, reorders, found⟩ := NetResponse.exists_header?_eq held
  let reordered : NetMeta := { info with headers := listed.headers }
  let other : NetTurn :=
    { turn with reply := Text.encodeUtf8 reordered.render :: turn.reply.tail }
  have reads : other.info? = some reordered := info?_of_head rfl
  refine ⟨other,
    ⟨rfl, .refl _, .inr ⟨info, _, read, reads, reorders.headers, rfl⟩, rfl, rfl⟩, ?_⟩
  rw [costText?, reads]
  exact found

/-- Where the same values are held under that name, and read alike, the same is read. -/
theorem read_costText?_of_alike {β : Type} {read : Option String → β}
    {relation : Headers → Headers → Prop} (concurs : turn.Concurs read)
    (holds : ∀ (info : NetMeta) headers body value, relation info.headers headers →
      ((NetResponse.ofMeta { info with headers := headers } body).Holds nativeCostHeader value ↔
        (NetResponse.ofMeta info body).Holds nativeCostHeader value))
    (alike : Alike relation turn other) : read other.costText? = read turn.costText? := by
  rcases alike.reply with same | ⟨info, headers, found, finds, related, rest⟩
  · rw [costText?, costText?, info?, info?, same]
  · have body : other.reply[1]? = turn.reply[1]? := by
      rw [← List.getElem?_tail, ← rest, List.getElem?_tail]
    rw [costText?, costText?, found, finds, body]
    exact NetResponse.read_header?_of_holds (concurs info found)
      fun value => holds info headers _ value related

/-- What a call costs is read off the header field, and 0 where nothing can be read. -/
theorem cost_eq (turn : NetTurn) :
    turn.cost = ((turn.costText?.bind readCost).getD 0).toNat := by
  rw [cost, costText?]
  cases turn.info? <;> rfl

/-! ### Parts of a call that are the same in all orders -/

/-- Something about a call is the same in whatever order the header fields are listed. -/
def Fixes {β : Type} (turn : NetTurn) (part : NetTurn → β) : Prop :=
  ∀ other, Alike Reorders turn other → part other = part turn

/-- The spellings are read alike if and only if what is read is the same in all orders. -/
theorem concurs_iff_fixes {β : Type} (read : Option String → β) :
    turn.Concurs read ↔ turn.Fixes (fun turn => read turn.costText?) := by
  constructor
  · intro concurs other alike
    refine read_costText?_of_alike concurs (fun info headers body value reorders => ?_) alike
    exact NetResponse.Reorders.holds_iff ⟨reorders, rfl⟩
  · intro same info found value other held also
    obtain ⟨first, alike, text⟩ := exists_costText?_eq found held
    obtain ⟨second, likewise, texts⟩ := exists_costText?_eq found also
    rw [← text, ← texts]
    exact (same first alike).trans (same second likewise).symm

/-- A part that only timed calls have, and that tells just what is read off the header field. -/
theorem fixes_iff {β δ : Type} {part : NetTurn → δ} {read : Option String → β} (nothing : δ)
    (untimed : ∀ {turn : NetTurn}, turn.isTimed = false → part turn = nothing)
    (timed : ∀ {turn other}, Alike Reorders turn other → turn.isTimed = true →
      (part other = part turn ↔ read other.costText? = read turn.costText?)) :
    turn.Fixes part ↔ (turn.isTimed = true → turn.Concurs read) := by
  rw [concurs_iff_fixes]
  cases made : turn.isTimed with
  | false =>
      refine iff_of_true (fun other alike => ?_) (fun timed => nomatch timed)
      rw [untimed made, untimed (alike.isTimed.trans made)]
  | true =>
      refine Iff.trans ?_ (forall_prop_of_true rfl).symm
      exact forall_congr' fun other => imp_congr_right fun alike => timed alike made

/-- A call adds the same in all orders if and only if it is not timed or its spellings count alike.
-/
theorem fixes_costAdded_iff :
    turn.Fixes costAdded ↔ (turn.isTimed = true → turn.CountsAlike) := by
  refine fixes_iff 0 (fun untimed => ?_) (fun alike timed => ?_)
  · rw [costAdded, untimed, if_neg Bool.false_ne_true]
  · rw [costAdded, costAdded, alike.isTimed, timed, if_pos rfl, if_pos rfl, cost_eq, cost_eq,
      UInt64.toNat_inj]

/-- What a call announces. -/
def event? (complain : Complaint) (turn : NetTurn) : Option Event :=
  if turn.isAccepted then
    turn.elapsed?.map fun elapsed =>
      .net ((NetClient.new false complain).settle turn.request elapsed turn.reply).event
  else none

variable {complain : Complaint}

/-- A timed call is announced. -/
theorem event?_of_timed (timed : turn.isTimed = true) :
    ∃ elapsed, turn.elapsed? = some elapsed ∧
      turn.event? complain = some
        (.net ((NetClient.new false complain).settle turn.request elapsed turn.reply).event) := by
  obtain ⟨accepted, measured⟩ := (Bool.and_eq_true _ _).mp timed
  obtain ⟨elapsed, measured⟩ := Option.isSome_iff_exists.mp measured
  refine ⟨elapsed, measured, ?_⟩
  rw [event?, accepted, if_pos rfl, measured, Option.map_some]

/-- A call that is not timed is not announced. -/
theorem event?_of_untimed (untimed : turn.isTimed = false) : turn.event? complain = none := by
  rw [event?]
  rcases (Bool.and_eq_false_iff).mp untimed with refused | unmeasured
  · rw [refused, if_neg Bool.false_ne_true]
  · rw [Option.isSome_eq_false_iff, Option.isNone_iff_eq_none] at unmeasured
    rw [unmeasured, Option.map_none, ite_self]

/-- Calls that are alike announce the same if and only if they are told the same time. -/
theorem Alike.event?_eq_iff (alike : Alike Reorders turn other) (timed : turn.isTimed = true) :
    other.event? complain = turn.event? complain ↔
      other.costText?.bind readCost = turn.costText?.bind readCost := by
  obtain ⟨elapsed, measured, event⟩ := event?_of_timed timed
  obtain ⟨_, measures, events⟩ := event?_of_timed (alike.isTimed.trans timed)
  obtain rfl := Option.some.inj ((measures.symm.trans alike.elapsed?).trans measured)
  have url : other.request.url = turn.request.url := by rw [alike.request]
  rw [event, events]
  rcases alike.reply with same | ⟨info, headers, found, finds, _, _⟩
  · refine iff_of_true ?_ ?_
    · rw [alike.request, same]
      rfl
    · rw [costText?, costText?, info?, info?, same]
  · obtain ⟨_, told, _⟩ := (NetClient.new false complain).settle_of_read _ found
    obtain ⟨_, tells, _⟩ := (NetClient.new false complain).settle_of_read _ finds
    rw [told, tells, url, costText?, costText?, found, finds]
    simp only [Option.some.injEq, Event.net.injEq, NetEvent.completed.injEq, true_and]
    rfl

/-- A call announces the same in all orders if and only if it is not timed or its spellings tell the
same. -/
theorem fixes_event?_iff :
    turn.Fixes (event? complain) ↔ (turn.isTimed = true → turn.TellsAlike) :=
  fixes_iff none event?_of_untimed Alike.event?_eq_iff

end NetTurn

/-! ### Runs of calls -/

namespace NetSession

open Logging (Reorders)

variable {session viewer : NetSession} {turn other : NetTurn} {turns others : List NetTurn}

/-- The same calls with their header fields listed in other orders. -/
abbrev Relisted (turns others : List NetTurn) : Prop :=
  List.Forall₂ (NetTurn.Alike Reorders) turns others

/-- The client depends on the header fields by the time that is added only. -/
theorem client_take_of_alike (alike : NetTurn.Alike Reorders turn other)
    (cost : other.costAdded = turn.costAdded) (same : viewer.client = session.client) :
    (viewer.take other).1.client = (session.take turn).1.client := by
  obtain ⟨untimed, client⟩ | ⟨timed, elapsed, duration, client⟩ := session.client_take turn
  · obtain ⟨_, clients⟩ | ⟨timed, _⟩ := viewer.client_take other
    · rw [client, clients, same]
    · exact absurd ((alike.isTimed.symm.trans timed).symm.trans untimed) (by decide)
  · obtain ⟨untimed, _⟩ | ⟨times, elapses, durations, clients⟩ := viewer.client_take other
    · exact absurd ((alike.isTimed.trans timed).symm.trans untimed) (by decide)
    · have even : elapses = elapsed := by
        rw [← UInt64.toNat_inj, duration, durations, NetTurn.duration, NetTurn.duration,
          alike.started, alike.ended]
      rw [NetTurn.costAdded, NetTurn.costAdded, timed, times, if_pos rfl, if_pos rfl] at cost
      rw [client, clients, NetClient.client_settle, NetClient.client_settle, cost, same, even,
        alike.isNone_info?]

/-- Runs whose calls add the same in all orders leave equal clients. -/
theorem client_after_of_fixes (fixes : ∀ turn ∈ turns, turn.Fixes NetTurn.costAdded)
    (relisted : Relisted turns others) (same : viewer.client = session.client) :
    (viewer.after others).client = (session.after turns).client := by
  induction relisted generalizing session viewer with
  | nil => exact same
  | cons alike _ ih =>
      obtain ⟨here, later⟩ := List.forall_mem_cons.mp fixes
      exact ih later (client_take_of_alike alike (here _ alike) same)

/-- What is announced of a call depends on the reader of metadata only. -/
theorem event_settle (client viewer : NetClient) (same : client.complain = viewer.complain)
    (request : NetRequest) (elapsed : UInt64) (reply : List Bytes) :
    (client.settle request elapsed reply).event = (viewer.settle request elapsed reply).event := by
  unfold NetClient.settle
  rw [same]
  cases NetResponse.ofSegments viewer.complain reply <;> rfl

/-- A call does not change who reads the metadata. -/
theorem complain_settle (client : NetClient) (request : NetRequest) (elapsed : UInt64)
    (reply : List Bytes) :
    (client.settle request elapsed reply).client.complain = client.complain := by
  unfold NetClient.settle
  cases NetResponse.ofSegments client.complain reply <;> rfl

/-- What a run of calls announces. -/
def announced (complain : Complaint) (turns : List NetTurn) : List Event :=
  turns.flatMap (fun turn => (turn.event? complain).toList)

/-- A call puts its announcement on the bus. -/
theorem bus_take (session : NetSession) (turn : NetTurn) :
    (session.take turn).1.bus =
        session.bus.map (·.announceAll (turn.event? session.client.complain).toList) ∧
      (session.take turn).1.client.complain = session.client.complain := by
  rw [NetTurn.event?]
  cases accepted : turn.isAccepted with
  | false =>
      rw [take_of_refused accepted]
      exact ⟨Option.map_id_apply.symm, rfl⟩
  | true =>
      cases measured : turn.elapsed? with
      | none =>
          rw [take_of_overflowed accepted measured]
          exact ⟨Option.map_id_apply.symm, rfl⟩
      | some elapsed =>
          rw [take_of_accepted accepted measured]
          have event := event_settle session.client (NetClient.new false session.client.complain)
            rfl turn.request elapsed turn.reply
          refine ⟨?_, complain_settle _ _ _ _⟩
          rw [if_pos rfl, Option.map_some, ← event]
          rfl

/-- A run of calls puts its announcements on the bus, in order. -/
theorem bus_after (session : NetSession) (turns : List NetTurn) :
    (session.after turns).bus =
      session.bus.map (·.announceAll (announced session.client.complain turns)) := by
  induction turns generalizing session with
  | nil => exact Option.map_id_apply.symm
  | cons turn turns ih =>
      obtain ⟨bus, complain⟩ := session.bus_take turn
      have later := ih (session.take turn).1
      rw [bus, complain, Option.map_map] at later
      rw [announced, List.flatMap_cons]
      simp only [Bus.announceAll_append]
      exact later

/-- Runs whose calls announce the same in all orders announce the same. -/
theorem announced_of_fixes {complain : Complaint}
    (fixes : ∀ turn ∈ turns, turn.Fixes (NetTurn.event? complain))
    (relisted : Relisted turns others) : announced complain others = announced complain turns := by
  induction relisted with
  | nil => rfl
  | cons alike _ ih =>
      obtain ⟨here, later⟩ := List.forall_mem_cons.mp fixes
      rw [announced, announced, List.flatMap_cons, List.flatMap_cons, here _ alike]
      exact congrArg _ (ih later)

/-- If runs of calls have equal results just where their calls contribute the same, then a run has
one result in all orders of the header fields if and only if each of its calls contributes the same
in all of them. -/
theorem relisted_iff {β δ : Type} {result : List NetTurn → β} (part : NetTurn → δ)
    (same : (∀ turn ∈ turns, turn.Fixes part) →
      ∀ others, Relisted turns others → result others = result turns)
    (apart : ∀ before turn other after,
      result (before ++ other :: after) = result (before ++ turn :: after) →
        part other = part turn) :
    (∀ first second, Relisted turns first → Relisted turns second →
        result first = result second) ↔ ∀ turn ∈ turns, turn.Fixes part := by
  constructor
  · intro equal turn made other alike
    obtain ⟨before, after, rfl⟩ := List.append_of_mem made
    have all (calls : List NetTurn) : Relisted calls calls :=
      List.forall₂_same.mpr fun turn _ => .refl (fun _ => .refl _) turn
    have changed := List.rel_append (all before) (.cons alike (all after))
    exact apart before turn other after (equal _ _ changed (all _))
  · intro fixes first second relisted relists
    rw [same fixes first relisted, same fixes second relists]

/-- A run leaves one client in all orders if and only if the spellings of each timed call count
alike. -/
theorem client_relisted_iff (session : NetSession) (turns : List NetTurn) :
    (∀ first second, Relisted turns first → Relisted turns second →
        (session.after first).client = (session.after second).client) ↔
      ∀ turn ∈ turns, turn.isTimed = true → turn.CountsAlike := by
  refine (relisted_iff NetTurn.costAdded ?_ ?_).trans
    (forall₂_congr fun _ _ => NetTurn.fixes_costAdded_iff)
  · exact fun fixes _ relisted => client_after_of_fixes fixes relisted rfl
  · intro before turn other after equal
    have sums := congrArg (fun client : NetClient => client.stats.totalNativeMs.toNat) equal
    simp only [accumulates_native.sum_after, List.map_append, List.sum_append, List.map_cons,
      List.sum_cons] at sums
    -- The sums are equal up to a multiple of their size, and the parts are smaller than that.
    have small := accumulates_native.small turn
    have smaller := accumulates_native.small other
    have size : UInt64.size = 18446744073709551616 := rfl
    rw [size] at sums small smaller
    omega

/-- A run leaves one bus in all orders if and only if the spellings of each timed call tell the
same. -/
theorem bus_relisted_iff {bus : Bus} (present : session.bus = some bus) (turns : List NetTurn) :
    (∀ first second, Relisted turns first → Relisted turns second →
        (session.after first).bus = (session.after second).bus) ↔
      ∀ turn ∈ turns, turn.isTimed = true → turn.TellsAlike := by
  refine (relisted_iff (NetTurn.event? session.client.complain) ?_ ?_).trans
    (forall₂_congr fun _ _ => NetTurn.fixes_event?_iff)
  · intro fixes others relisted
    rw [bus_after, bus_after, announced_of_fixes fixes relisted]
  · intro before turn other after equal
    rw [bus_after, bus_after, present, Option.map_some, Option.map_some, Option.some.injEq] at equal
    have emitted := congrArg Bus.emitted equal
    rw [Bus.emitted_announceAll, Bus.emitted_announceAll] at emitted
    have events := List.append_cancel_left emitted
    rw [announced, announced, List.flatMap_append, List.flatMap_append, List.flatMap_cons,
      List.flatMap_cons] at events
    have event := List.append_cancel_right (List.append_cancel_left events)
    rw [← Option.head?_toList (o := other.event? _), event, Option.head?_toList]

/-- What header fields tell a client and its listeners, in whatever order they are listed. -/
structure Lookups (session : NetSession) (turns : List NetTurn) : Prop where
  responses : ∀ (response : NetResponse) name, response.Lookup name
  costs : ∀ response : NetResponse,
    (∀ first second, response.Reorders first → response.Reorders second →
        first.nativeCost? = second.nativeCost?) ↔
      ∀ value other, response.Holds nativeCostHeader value →
        response.Holds nativeCostHeader other → readCost value = readCost other
  clients : (∀ first second, Relisted turns first → Relisted turns second →
      (session.after first).client = (session.after second).client) ↔
    ∀ turn ∈ turns, turn.isTimed = true → turn.CountsAlike
  buses : ∀ bus, session.bus = some bus →
    ((∀ first second, Relisted turns first → Relisted turns second →
        (session.after first).bus = (session.after second).bus) ↔
      ∀ turn ∈ turns, turn.isTimed = true → turn.TellsAlike)

/-- A look-up finds the value of any spelling of its name, as the fields are listed.  Responses and
runs of calls are told the same in all orders if and only if the spellings of a name have the same
to tell. -/
theorem lookups (session : NetSession) (turns : List NetTurn) : Lookups session turns where
  responses := NetResponse.lookup
  costs _ := NetResponse.nativeCost?_iff
  clients := client_relisted_iff session turns
  buses _ present := bus_relisted_iff present turns

/-- Two spellings with different times: in one order the client is told the one, in the other order
the other. -/
theorem lookups_differ :
    let info (headers : Headers) : NetMeta := ⟨200, none, none, headers, none, none⟩
    let turn (headers : Headers) : NetTurn := ⟨.get "http://a", (info headers).segments none, 3, 5⟩
    let one := (Table.empty.insert "X-Native-Cost" "1").insert nativeCostHeader "2"
    let two := (Table.empty.insert nativeCostHeader "2").insert "X-Native-Cost" "1"
    let session := NetSession.new false .silent true true []
    NetTurn.Alike Reorders (turn one) (turn two) ∧
      (NetResponse.ofMeta (info one) none).header? nativeCostHeader = some "1" ∧
      (NetResponse.ofMeta (info two) none).header? nativeCostHeader = some "2" ∧
      (turn one).event? .silent = some (.net (.completed "http://a" 200 2 (some 1))) ∧
      (turn two).event? .silent = some (.net (.completed "http://a" 200 2 (some 2))) ∧
      (session.after [turn one]).client.stats.totalNativeMs = 1 ∧
      (session.after [turn two]).client.stats.totalNativeMs = 2 := by
  intro info turn one two session
  have read (headers : Headers) : (turn headers).info? = some (info headers) :=
    NetTurn.info?_of_segments rfl
  have reorders : Reorders one two := .swap _ _ _
  have solid : decide (Text.trim "http://a" ≠ "") = true := by decide
  have apart : elapsedMs? 3 5 = some 2 := by decide
  have accepted (headers : Headers) : (turn headers).isAccepted = true := solid
  have measured (headers : Headers) : (turn headers).elapsed? = some 2 := apart
  have bodiless (headers : Headers) : (turn headers).reply[1]? = none := rfl
  have tail (headers : Headers) : (turn headers).reply.tail = [] := rfl
  have event (headers : Headers) : (turn headers).event? .silent =
      some (.net (.completed "http://a" 200 2
        (NetResponse.ofMeta (info headers) none).nativeCost?)) := by
    obtain ⟨_, told, _⟩ := (NetClient.new false .silent).settle_of_read 2 (read headers)
    rw [NetTurn.event?, accepted, if_pos rfl, measured, Option.map_some, told, bodiless]
    rfl
  have total (headers : Headers) : (session.after [turn headers]).client.stats.totalNativeMs =
      (NetResponse.ofMeta (info headers) none).nativeCost?.getD 0 := by
    have taken := congrArg (·.1.client.stats.totalNativeMs)
      (session.take_of_accepted (accepted headers) (measured headers))
    dsimp only at taken
    rw [NetClient.client_settle, NetTurn.cost, read, bodiless] at taken
    dsimp only at taken
    rw [UInt64.ofNat_toNat] at taken
    exact taken.trans (UInt64.zero_add _)
  have alike : NetTurn.Alike Reorders (turn one) (turn two) :=
    ⟨rfl, .refl _, .inr ⟨info one, two, read one, read two, reorders,
      (tail one).trans (tail two).symm⟩, rfl, rfl⟩
  have first : (NetResponse.ofMeta (info one) none).nativeCost? = some 1 := by decide
  have second : (NetResponse.ofMeta (info two) none).nativeCost? = some 2 := by decide
  refine ⟨alike, by decide, by decide, ?_, ?_, ?_, ?_⟩
  · rw [event, first]
  · rw [event, second]
  · rw [total, first, Option.getD_some]
  · rw [total, second, Option.getD_some]

end NetSession

end HostBridge
