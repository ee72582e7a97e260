import HostBridge.Proofs.Json.Rereading
import HostBridge.Proofs.Payload
import HostBridge.Proofs.Text.Spelling

/-!
# What outbound payloads carry, and what echoes an id

The payload of a call is read as an object that has the arguments of the call as its members and no
others.  An id in it comes back with the result of a script, as a number or as a text of its digits.

Main statements: the payload of every call carries its arguments (`Outbound.parse_payload`), an
inbound value is an id if it echoes the id (`CallbackId.ofJson?_eq_some_iff_echoes`), and a numeral
does if it has digits only that write the id (`CallbackId.echoes_iff_of_numeral`).
-/

namespace HostBridge

namespace Outbound

/-- The headers of a call have different names. -/
def HasDistinctHeaders : Outbound → Prop
  | loadUrl _ (some headers) => (headers.map Prod.fst).Nodup
  | _ => True

/-- A payload carries the arguments of a call. -/
inductive Carries : Outbound → Json → Prop where
  | loadUrl {url : String} {json : Json} (members : json.IsObjectOf [("url", .string url)]) :
      Carries (.loadUrl url none) json
  | loadUrlWith {url : String} {headers : List (String × String)} {fields json : Json}
      (headed : fields.IsObjectOf (headers.map fun header => (header.1, .string header.2)))
      (members : json.IsObjectOf [("url", .string url), ("headers", fields)]) :
      Carries (.loadUrl url (some headers)) json
  | loadData {baseUrl mimeType encoding historyUrl : Option String} {data : String} {json : Json}
      (members : json.IsObjectOf [("baseUrl", .ofOption .string baseUrl), ("data", .string data),
        ("mimeType", .ofOption .string mimeType), ("encoding", .ofOption .string encoding),
        ("historyUrl", .ofOption .string historyUrl)]) :
      Carries (.loadData baseUrl data mimeType encoding historyUrl) json
  | evaluate {script : String} {id : CallbackId} {json : Json}
      (members : json.IsObjectOf [("script", .string script), ("callbackId", .ofUInt64 id.value)]) :
      Carries (.evaluate script id) json
  | addInterface {name : String} {json : Json}
      (members : json.IsObjectOf [("name", .string name)]) : Carries (.addInterface name) json

/-- The payload of a call is read as an object of its arguments. -/
theorem parse_payload {call : Outbound} (distinct : call.HasDistinctHeaders) :
    ∃ json, Json.parse call.payload.render = some json ∧ call.Carries json := by
  have text := Json.isSettled_string
  have optional := Json.isSettled_ofOption
  cases call with
  | loadUrl url headers =>
      cases headers with
      | none =>
          obtain ⟨json, parsed, members⟩ :=
            @Json.parse_object_of_settled [("url", .string url)] (by simp) (by simp [text])
          exact ⟨json, parsed, .loadUrl members⟩
      | some headers =>
          have integral := Json.isIntegral_ofTexts headers
          have flat : (Json.ofTexts headers).depth < Json.maxDepth :=
            Nat.lt_of_le_of_lt (Json.depth_ofTexts_le headers) (by decide)
          have shallow : (Json.string url).depth < Json.maxDepth := by
            rw [(text url).depth]
            decide
          obtain ⟨json, parsed, members⟩ :=
            @Json.parse_object [("url", .string url), ("headers", .ofTexts headers)] (by simp)
              (by simp [(text url).integral, integral]) (by simp [shallow, flat])
          simp only [List.map_cons, (text url).reread] at members
          exact ⟨json, parsed, .loadUrlWith (Json.isObjectOf_ofTexts distinct) members⟩
  | loadData baseUrl data mimeType encoding historyUrl =>
      obtain ⟨json, parsed, members⟩ :=
        @Json.parse_object_of_settled [("baseUrl", .ofOption .string baseUrl),
          ("data", .string data), ("mimeType", .ofOption .string mimeType),
          ("encoding", .ofOption .string encoding), ("historyUrl", .ofOption .string historyUrl)]
          (by simp) (by simp [text, optional])
      exact ⟨json, parsed, .loadData members⟩
  | evaluate script id =>
      have number : id.toJson.IsSettled := Json.isSettled_ofUInt64 id.value
      obtain ⟨json, parsed, members⟩ :=
        @Json.parse_object_of_settled [("script", .string script), ("callbackId", id.toJson)]
          (by simp) (by simp [text, number])
      exact ⟨json, parsed, .evaluate members⟩
  | addInterface name =>
      obtain ⟨json, parsed, members⟩ :=
        @Json.parse_object_of_settled [("name", .string name)] (by simp) (by simp [text])
      exact ⟨json, parsed, .addInterface members⟩

end Outbound

namespace CallbackId

/-- A value echoes an id: as a number, or as a text that spells it. -/
inductive Echoes (id : CallbackId) : Json → Prop where
  | number : Echoes id (.ofUInt64 id.value)
  | text {s : String} (spells : Text.Spells s id.value.toNat) : Echoes id (.string s)

variable {id : CallbackId}

/-- A value is read as the id that it echoes. -/
theorem ofJson?_eq_some_iff_echoes {json : Json} : ofJson? json = some id ↔ id.Echoes json := by
  rw [ofJson?_eq_some_iff]
  constructor
  · rintro (rfl | ⟨text, rfl, writes⟩)
    · exact .number
    · exact .text (Text.spells_iff.mpr writes)
  · intro echoes
    cases echoes with
    | number => exact .inl rfl
    | text spells => exact .inr ⟨_, rfl, Text.spells_iff.mp spells⟩

/-- Of the numerals those echo an id that are digits and write it; no numeral does that has a sign,
a fraction or an exponent, or that 64 bits do not hold. -/
theorem echoes_iff_of_numeral {numeral : Json.Numeral} {number : Json.Number}
    (valued : numeral.value? = some number) :
    id.Echoes (.number number) ↔ numeral.negative = false ∧ numeral.fraction = none ∧
      numeral.exponent = none ∧ Json.natOfDigits numeral.whole = id.value.toNat := by
  rw [← Json.Numeral.value?_eq_unsigned_iff, valued, Option.some_inj]
  constructor
  · intro echoes
    cases echoes
    rfl
  · rintro rfl
    exact .number

end CallbackId

end HostBridge
