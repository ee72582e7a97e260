import HostBridge.Event.Codec
import HostBridge.Proofs.Json.Reordering

/-!
# Reading back events

The name of an event and the names of its fields differ, so the payload of an event says which event
it is and what its fields are in whatever order its members come.

Main statements: each event is made of its payload's fields by the variant that the payload names
(`ViewEvent.codes`, `NetEvent.codes`, `LifecycleEvent.codes`), and an event is recovered from its
text, also where the members are written in another order (`Event.recovery`).
-/

namespace HostBridge

open Json (Record Decoder)

namespace EventCodec

variable {α : Type}

/-- A variant makes a value of the fields that are written for it. -/
structure Variant.Makes (variant : Variant α) (fields : List (String × Json)) (made : α) :
    Prop where
  names : fields.map Prod.fst = variant.fields
  /-- No field has the name of another or of the member that names the event. -/
  nodup : ("event" :: variant.fields).Nodup
  scalar : ∀ field ∈ fields, field.2.isScalar = true
  /-- The value depends on what a record has under the names of the fields. -/
  read : ∀ record : Record,
    (∀ name, record.tree? name = ((Json.object fields).get? name).map Json.tree) →
      variant.read record = some made

/-- A payload names the variant that makes a value of its fields. -/
def Codes (variants : List (Variant α)) (payload : Json) (made : α) : Prop :=
  ∃ name fields variant, payload = eventPayload name fields ∧
    variants.find? (fun v => v.name = name) = some variant ∧ variant.Makes fields made

/-- A variant that holds only an object id is made from that one member. -/
theorem makes_idVariant (name : String) (make : UInt64 → α) (id : UInt64) :
    (idVariant name make).Makes [("object_id", .ofUInt64 id)] (make id) := by
  refine ⟨rfl, by simp [idVariant], by simp, ?_⟩
  intro record found
  simp [idVariant, Record.required, found, Json.get?]

end EventCodec

open EventCodec

/-- Each view event is coded by the variant of its kind. -/
theorem ViewEvent.codes (event : ViewEvent) : Codes viewVariants event.payload event := by
  cases event with
  | pageStarted id => exact ⟨_, _, _, rfl, rfl, makes_idVariant _ _ id⟩
  | loadResource id => exact ⟨_, _, _, rfl, rfl, makes_idVariant _ _ id⟩
  | pageFinished id => exact ⟨_, _, _, rfl, rfl, makes_idVariant _ _ id⟩
  | progressChanged id progress =>
      refine ⟨_, _, _, rfl, rfl, ⟨rfl, by simp, by simp, ?_⟩⟩
      intro record found
      simp [Record.required, found, Json.get?]
  | scriptResult id callback delivered =>
      refine ⟨_, _, _, rfl, rfl, ⟨rfl, by simp, by simp, ?_⟩⟩
      intro record found
      simp [Record.required, found, Json.get?]
  | scriptDispatched id interface method =>
      refine ⟨_, _, _, rfl, rfl, ⟨rfl, by simp, by simp, ?_⟩⟩
      intro record found
      simp [Record.required, found, Json.get?]
  | scriptDispatchFailed id interface reason =>
      refine ⟨_, _, _, rfl, rfl, ⟨rfl, by simp, by simp, ?_⟩⟩
      intro record found
      simp [Record.required, found, Json.get?]

/-- Each network event is coded by the variant of its kind. -/
theorem NetEvent.codes (event : NetEvent) : Codes netVariants event.payload event := by
  cases event with
  | completed url code elapsed cost =>
      have scalar := Json.isScalar_ofOption _ cost Json.isScalar_ofUInt64
      refine ⟨_, _, _, rfl, rfl, ⟨rfl, by simp, by simp [scalar], ?_⟩⟩
      intro record found
      simp [Record.required, Record.nullable, found, Json.get?]
  | transportFailed url error =>
      refine ⟨_, _, _, rfl, rfl, ⟨rfl, by simp, by simp, ?_⟩⟩
      intro record found
      simp [Record.required, found, Json.get?]

/-- Each lifecycle event is coded by the variant of its kind. -/
theorem LifecycleEvent.codes (event : LifecycleEvent) :
    Codes lifecycleVariants event.payload event := by
  cases event with
  | registered id => exact ⟨_, _, _, rfl, rfl, makes_idVariant _ _ id⟩
  | released id => exact ⟨_, _, _, rfl, rfl, makes_idVariant _ _ id⟩
  | eventDropped id method =>
      refine ⟨_, _, _, rfl, rfl, ⟨rfl, by simp, by simp, ?_⟩⟩
      intro record found
      simp [Record.required, found, Json.get?]

/-! ### Payloads -/

namespace EventCodec

variable {α : Type} {variants : List (Variant α)} {made : α}

/-- A member that is not the name of the event is left among the fields. -/
theorem splitName_cons {name : String} (other : name ≠ "event") (tree : Json.Tree)
    (rest : List (List Json.Piece × Json.Tree)) :
    splitName ((Json.pieces name, tree) :: rest) =
      (splitName rest).map (Prod.map id ((Json.pieces name, tree) :: ·)) := by
  rw [splitName, Json.textOfPieces?_pieces]
  rcases splitName rest with _ | ⟨_ | _, others⟩
  · simp
  · simp [other]
  · simp [other]

/-- With no member that names the event there is no name to split off. -/
theorem splitName_of_fresh {members : List (String × Json)}
    (fresh : "event" ∉ members.map Prod.fst) :
    splitName (Json.memberTrees members) = some (none, Json.memberTrees members) := by
  induction members with
  | nil => rfl
  | cons member members ih =>
      obtain ⟨other, fresh⟩ := List.ne_and_not_mem_of_not_mem_cons fresh
      rw [Json.memberTrees, splitName_cons (Ne.symm other), ih fresh]
      rfl

/-- The name is found wherever it stands. -/
theorem splitName_memberTrees {before after : List (String × Json)} (name : Json)
    (fresh : "event" ∉ (before ++ after).map Prod.fst) :
    splitName (Json.memberTrees (before ++ ("event", name) :: after)) =
      some (some name.tree, Json.memberTrees (before ++ after)) := by
  induction before with
  | nil =>
      rw [List.nil_append] at fresh ⊢
      rw [Json.memberTrees, splitName, Json.textOfPieces?_pieces, splitName_of_fresh fresh]
      rfl
  | cons member before ih =>
      obtain ⟨other, fresh⟩ := List.ne_and_not_mem_of_not_mem_cons fresh
      rw [List.cons_append, Json.memberTrees, splitName_cons (Ne.symm other), ih fresh]
      rfl

/-- A payload is read, with its members in any order. -/
theorem readPayload_of_codes {payload : Json} (codes : Codes variants payload made)
    {members : List (String × Json)} (perm : members.Perm payload.members) (byPosition : Bool) :
    readPayload variants byPosition (Json.object members).tree = some made := by
  obtain ⟨name, fields, variant, rfl, chosen, makes⟩ := codes
  obtain ⟨distinct, nodup⟩ := List.nodup_cons.mp makes.nodup
  have listed : ("event", Json.string name) ∈ members := perm.mem_iff.mpr List.mem_cons_self
  obtain ⟨before, after, rfl⟩ := List.append_of_mem listed
  have others : (before ++ after).Perm fields := (List.perm_middle.symm.trans perm).cons_inv
  have names : ((before ++ after).map Prod.fst).Perm variant.fields := by
    rw [← makes.names]
    exact others.map Prod.fst
  have fresh : "event" ∉ (before ++ after).map Prod.fst := fun found =>
    distinct (names.mem_iff.mp found)
  have single : ((before ++ after).map Prod.fst).Nodup := names.nodup_iff.mpr nodup
  have known : ∀ member ∈ before ++ after, member.1 ∈ variant.fields := fun member found =>
    names.mem_iff.mp (List.mem_map_of_mem found)
  have record := Record.ofTree?_object single known
  have scalar : ∀ member ∈ before ++ ("event", Json.string name) :: after,
      member.2.isScalar = true := by
    intro member found
    rcases List.mem_cons.mp (perm.mem_iff.mp found) with rfl | field
    · rfl
    · exact makes.scalar member field
  obtain ⟨value, valued⟩ := Json.valueWithin_object scalar 125
  have depth : Json.maxDepth - 1 = 125 + 1 := rfl
  have named : chooseVariant variants byPosition (Json.string name).tree = some variant := by
    rw [Json.tree, chooseVariant, Json.textOfPieces?_pieces, Option.bind_some, chosen]
  rw [Json.tree] at valued record ⊢
  rw [readPayload, depth, valued]
  dsimp only
  rw [splitName_memberTrees _ fresh]
  dsimp only
  rw [named, Option.bind_eq_bind, Option.bind_some, record, Option.bind_eq_bind, Option.bind_some]
  apply makes.read
  intro field
  rw [Record.tree?_ofMembers, Json.get?_of_perm others single]

end EventCodec

/-! ### Events -/

namespace Event

/-- The payload that an event is written with. -/
def payload : Event → Json
  | view event => event.payload
  | net event => event.payload
  | lifecycle event => event.payload

/-- A value that writes an event, with the members of the event and of its payload in some order. -/
def Spells (event : Event) (value : Json) : Prop :=
  ∃ fields members, fields.Perm event.payload.members ∧
    members.Perm [("type", .string event.kind.name), ("payload", .object fields)] ∧
      value = .object members

variable {event : Event} {value : Json}

/-- The value that an event is written as spells it. -/
theorem spells_toJson (event : Event) : event.Spells event.toJson := by
  refine ⟨event.payload.members, _, .refl _, .refl _, ?_⟩
  rcases event with event | event | event
  · cases event <;> rfl
  · cases event <;> rfl
  · cases event <;> rfl

/-- What a payload is made of are scalars. -/
theorem isScalar_payload (event : Event) :
    ∀ field ∈ event.payload.members, field.2.isScalar = true := by
  have written {α : Type} {variants : List (Variant α)} {payload : Json} {made : α}
      (codes : Codes variants payload made) :
      ∀ field ∈ payload.members, field.2.isScalar = true := by
    obtain ⟨name, fields, variant, rfl, _, makes⟩ := codes
    exact List.forall_mem_cons.mpr ⟨Json.isScalar_string name, makes.scalar⟩
  cases event with
  | view event => exact written event.codes
  | net event => exact written event.codes
  | lifecycle event => exact written event.codes

/-- A value that spells an event holds integers only, so it is read back as it was written. -/
theorem isIntegral_of_spells (spells : event.Spells value) : value.isIntegral = true := by
  obtain ⟨fields, members, inner, outer, rfl⟩ := spells
  have payload : (Json.object fields).isIntegral = true := by
    apply Json.isIntegral_object
    intro field listed
    exact Json.isIntegral_of_isScalar (event.isScalar_payload field (inner.mem_iff.mp listed))
  apply Json.isIntegral_object
  intro member listed
  rcases List.mem_pair.mp (outer.mem_iff.mp listed) with rfl | rfl
  · rfl
  · exact payload

/-- The payload of an event, its members in any order, is read back under its kind. -/
theorem readKind_payload {fields : List (String × Json)} (inner : fields.Perm event.payload.members)
    (byPosition : Bool) :
    readKind byPosition (Json.object fields).tree event.kind = some event := by
  cases event with
  | view event =>
      exact congrArg (Option.map view) (readPayload_of_codes event.codes inner byPosition)
  | net event =>
      exact congrArg (Option.map net) (readPayload_of_codes event.codes inner byPosition)
  | lifecycle event =>
      exact congrArg (Option.map lifecycle) (readPayload_of_codes event.codes inner byPosition)

/-- Every kind is read back from its name. -/
theorem ofName?_name (kind : EventKind) : EventKind.ofName? kind.name = some kind := by
  cases kind <;> decide

/-- Whatever spells an event decodes to it. -/
theorem decode_of_spells (spells : event.Spells value) : decode value.tree = some event := by
  obtain ⟨fields, members, inner, outer, rfl⟩ := spells
  have names : (members.map Prod.fst).Perm ["type", "payload"] := outer.map Prod.fst
  have nodup : (members.map Prod.fst).Nodup := names.nodup_iff.mpr (by decide)
  have known : ∀ member ∈ members, member.1 ∈ ["type", "payload"] := fun member listed =>
    names.mem_iff.mp (List.mem_map_of_mem listed)
  have kind : (Record.ofMembers members).required "type" (Decoder.oneOf EventKind.ofName?) =
      some event.kind := by
    rw [Record.required_ofMembers, Json.get?_of_perm outer nodup]
    exact (Decoder.oneOf_tree _ _).trans (ofName?_name event.kind)
  have payload : (Record.ofMembers members).tree? "payload" = some (Json.object fields).tree := by
    rw [Record.tree?_ofMembers, Json.get?_of_perm outer nodup]
    rfl
  rw [decode, Record.ofTree?_object nodup known, Option.bind_eq_bind, Option.bind_some, kind,
    Option.bind_eq_bind, Option.bind_some, payload, Option.bind_eq_bind, Option.bind_some]
  exact readKind_payload inner _

/-- An event is recovered from its text, and with it what it means, how severe it is and what it is
about; and so it is where the members of the event and of its payload come in another order. -/
theorem recovery (event : Event) :
    Json.decodeText decode event.toJson.render = some event ∧
      (∀ value, event.Spells value → Json.decodeText decode value.render = some event) ∧
      ∀ recovered, Json.decodeText decode event.toJson.render = some recovered →
        recovered.description = event.description ∧ recovered.severity = event.severity ∧
          recovered.objectId? = event.objectId? := by
  have reads {value : Json} (spells : event.Spells value) :
      Json.decodeText decode value.render = some event := by
    rw [Json.decodeText, Json.parse_render (isIntegral_of_spells spells), Option.bind_some,
      decode_of_spells spells]
  have whole := reads event.spells_toJson
  refine ⟨whole, fun value spells => reads spells, ?_⟩
  intro recovered found
  cases whole.symm.trans found
  exact ⟨rfl, rfl, rfl⟩

/-- A payload that comes before its kind, with its name at its end. -/
theorem recovery_of_payloadFirst :
    let event : Event := .net (.completed "http://a/\"" 404 18446744073709551615 none)
    let value : Json := .object [
      ("payload", .object [("native_cost_ms", .null),
        ("elapsed_ms", .ofUInt64 18446744073709551615), ("code", .ofNat 404),
        ("url", .string "http://a/\""), ("event", .string "Completed")]),
      ("type", .string "Net")]
    event.Spells value ∧ Json.decodeText decode value.render = some event := by
  intro event value
  have spells : event.Spells value :=
    ⟨_, _, List.reverse_perm event.payload.members, List.Perm.swap _ _ [], rfl⟩
  exact ⟨spells, event.recovery.2.1 value spells⟩

end Event

end HostBridge
