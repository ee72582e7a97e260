import HostBridge.Proofs.Text.Numeral
import HostBridge.Router
import HostBridge.View.Message

/-!
# What inbound payloads carry

Which payloads can be read, and which of them carry what an inbound method needs, said apart from
the functions that read them.

Main statements: a payload is read if it is blank or the parser takes it
(`Inbound.value?_eq_some_iff`), and a method finds what it needs in the payloads that fit it
(`InboundMethod.isSome_loadProgress?_iff`, `InboundMethod.isSome_callbackId?_iff`,
`InboundMethod.isSome_scriptMessage?_iff`).
-/

namespace HostBridge

namespace CallbackId

/-- An id is a number without sign, or a text that writes one between its blanks. -/
theorem ofJson?_eq_some_iff {json : Json} {id : CallbackId} :
    ofJson? json = some id ↔ json = .ofUInt64 id.value ∨
      ∃ text, json = .string text ∧ Text.Writes (Text.trim text).toList id.value.toNat := by
  unfold ofJson?
  split
  next number =>
    constructor
    · intro read
      cases read
      exact .inl rfl
    · rintro (same | ⟨text, other, _⟩)
      · cases same
        rfl
      · cases other
  next s =>
    have read : (ofText (Text.trim s)).toOption = some id ↔
        Text.readUInt64 (Text.trim s) = .ok id.value := by
      unfold ofText
      cases Text.readUInt64 (Text.trim s) with
      | error error => exact iff_of_false (nomatch ·) (nomatch ·)
      | ok value =>
          obtain ⟨number⟩ := id
          simp only [Except.map, Except.toOption, Option.some.injEq, CallbackId.mk.injEq,
            Except.ok.injEq]
    rw [read, Text.readUInt64_eq_ok_iff]
    constructor
    · intro writes
      exact .inr ⟨s, rfl, writes⟩
    · rintro (same | ⟨text, same, writes⟩)
      · cases same
      · cases same
        exact writes
  next unnumbered untexted =>
    refine ⟨(nomatch ·), ?_⟩
    rintro (rfl | ⟨text, rfl, _⟩)
    · exact absurd rfl (unnumbered _)
    · exact absurd rfl (untexted _)

end CallbackId

namespace InboundMethod

/-- No two methods have the same name. -/
theorem name_injective : Function.Injective name := by
  intro first second same
  cases first <;> cases second <;> first | rfl | exact absurd same (by decide)

/-- A text names no method when it is none of their names. -/
theorem ofName?_eq_none_iff {text : String} :
    ofName? text = none ↔ ∀ method : InboundMethod, method.name ≠ text := by
  rw [ofName?, List.find?_eq_none]
  constructor
  · intro unnamed method same
    refine unnamed method ?_ (decide_eq_true same)
    cases method <;> decide
  · intro unnamed method _ same
    exact unnamed method (of_decide_eq_true same)

/-- A text names a method exactly when it is its name. -/
theorem ofName?_eq_some_iff {text : String} {method : InboundMethod} :
    ofName? text = some method ↔ method.name = text := by
  constructor
  · intro named
    unfold ofName? at named
    have found := List.find?_some named
    exact of_decide_eq_true found
  · rintro rfl
    cases method <;> rfl

/-- A payload has what a method needs: a progress of 32 bits, an id, or a call with the names of the
interface and of its method. -/
def Fits (payload : Json) : InboundMethod → Prop
  | .loadProgress => ∃ value, (payload.get? "progress").bind Json.asInt? = some value ∧
      -2147483648 ≤ value ∧ value ≤ 2147483647
  | .evaluateResult => ∃ id member, payload.get? "callbackId" = some member ∧
      (member = .ofUInt64 id ∨
        ∃ text, member = .string text ∧ Text.Writes (Text.trim text).toList id.toNat)
  | .scriptMessage => ∃ interface body method, payload.get? "name" = some (.string interface) ∧
      payload.get? "body" = some body ∧ body.get? "method" = some (.string method)

/-- An integer is a word when it fits into thirty-two bits. -/
theorem isSome_int32?_iff (value : Int) :
    (int32? value).isSome = true ↔ -2147483648 ≤ value ∧ value ≤ 2147483647 := by
  unfold int32? int32Min int32Max
  split
  next within => exact iff_of_true rfl within
  next outside => exact iff_of_false (nomatch ·) outside

/-- A progress report has a value exactly when its payload fits. -/
theorem isSome_loadProgress?_iff {payload : Json} :
    (loadProgress? payload).isSome = true ↔ Fits payload .loadProgress := by
  unfold loadProgress? Fits
  cases (payload.get? "progress").bind Json.asInt? with
  | none => exact iff_of_false (nomatch ·) fun ⟨_, same, _⟩ => nomatch same
  | some value =>
      rw [Option.bind_some, isSome_int32?_iff]
      constructor
      · intro within
        exact ⟨value, rfl, within⟩
      · rintro ⟨_, same, within⟩
        cases same
        exact within

/-- The word of an integer is worth the integer. -/
theorem int32?_eq_some_iff (value : Int) (word : Int32) :
    int32? value = some word ↔ word.toInt = value := by
  unfold int32? int32Min int32Max
  split
  next within =>
    rw [Option.some_inj]
    constructor
    · rintro rfl
      exact Int32.toInt_ofInt_of_le (by omega) (by omega)
    · rintro rfl
      exact Int32.ofInt_toInt word
  next outside =>
    refine iff_of_false (nomatch ·) ?_
    rintro rfl
    exact outside ⟨word.minValue_le_toInt, word.toInt_le⟩

/-- The value of a progress report is the integer under its member. -/
theorem loadProgress?_eq_some_iff {payload : Json} {value : Int32} :
    loadProgress? payload = some value ↔
      (payload.get? "progress").bind Json.asInt? = some value.toInt := by
  unfold loadProgress?
  cases (payload.get? "progress").bind Json.asInt? with
  | none => exact iff_of_false (nomatch ·) (nomatch ·)
  | some number => rw [Option.bind_some, int32?_eq_some_iff, Option.some_inj, eq_comm]

/-- A script result carries an id exactly when its payload fits. -/
theorem isSome_callbackId?_iff {payload : Json} :
    ((payload.get? "callbackId").bind CallbackId.ofJson?).isSome = true ↔
      Fits payload .evaluateResult := by
  simp only [Option.isSome_iff_exists, Option.bind_eq_some_iff, CallbackId.ofJson?_eq_some_iff]
  constructor
  · rintro ⟨id, member, carried, names⟩
    exact ⟨id.value, member, carried, names⟩
  · rintro ⟨id, member, carried, names⟩
    exact ⟨⟨id⟩, member, carried, names⟩

/-- Only a text is read as a text. -/
theorem asString?_eq_some_iff {json : Json} {text : String} :
    json.asString? = some text ↔ json = .string text := by
  cases json <;> simp [Json.asString?]

/-- A script message is read exactly when its payload fits. -/
theorem isSome_scriptMessage?_iff {payload : Json} :
    (ScriptMessage.ofJson? payload).isSome = true ↔ Fits payload .scriptMessage := by
  unfold ScriptMessage.ofJson? Fits
  simp only [Option.isSome_iff_exists, Option.bind_eq_bind, Option.bind_eq_some_iff,
    Option.pure_def, Option.some.injEq, asString?_eq_some_iff]
  cases payload.get? "body" with
  | none =>
      -- A missing body is null, which has no members.
      refine iff_of_false ?_ ?_
      · rintro ⟨_, _, _, _, ⟨_, absent, _⟩, _⟩
        cases absent
      · rintro ⟨_, _, _, _, absent, _⟩
        cases absent
  | some body =>
      constructor
      · rintro ⟨_, interface, ⟨_, named, rfl⟩, method, ⟨_, called, rfl⟩, _⟩
        exact ⟨interface, body, method, named, rfl, called⟩
      · rintro ⟨interface, _, method, named, same, called⟩
        cases same
        exact ⟨_, interface, ⟨_, named, rfl⟩, method, ⟨_, called, rfl⟩, rfl⟩

end InboundMethod

/-- The value that a text is read as: an empty object if it is blank, and its value if the parser
takes it, with numbers in range and nothing nested too deep. -/
def Json.Reads (text : String) (value : Json) : Prop :=
  (Text.trim text = "" ∧ value = .object []) ∨
    (Text.trim text ≠ "" ∧ Json.parse text = some value)

/-- A text reads as one value. -/
theorem Json.Reads.unique {text : String} {first second : Json} (one : Reads text first)
    (other : Reads text second) : first = second := by
  rcases one with ⟨blank, rfl⟩ | ⟨written, parsed⟩
  · rcases other with ⟨_, rfl⟩ | ⟨written, _⟩
    · rfl
    · exact absurd blank written
  · rcases other with ⟨blank, _⟩ | ⟨_, again⟩
    · exact absurd blank written
    · exact Option.some.inj (parsed.symm.trans again)

/-- The value of a payload is the one that it reads as. -/
theorem Inbound.value?_eq_some_iff {inbound : Inbound} {payload : Json} :
    inbound.value? = some payload ↔ Json.Reads inbound.payload payload := by
  unfold value? Json.Reads
  by_cases blank : Text.isBlankText inbound.payload = true
  · have nothing := (Text.isBlankText_iff _).mp blank
    simp only [blank, ↓reduceIte, Option.some.injEq, nothing, true_and, ne_eq, not_true_eq_false,
      false_and, or_false, eq_comm]
  · have something := mt (Text.isBlankText_iff _).mpr blank
    simp only [blank, something, Bool.false_eq_true, ↓reduceIte, false_and, ne_eq,
      not_false_eq_true, true_and, false_or]

end HostBridge
