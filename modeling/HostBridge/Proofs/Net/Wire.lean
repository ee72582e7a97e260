import HostBridge.Net.Scripted
import HostBridge.Net.Transport
import HostBridge.Proofs.Json.Fields

/-!
# Requests and replies across the boundary

A client writes a request and an engine reads it; the engine writes the metadata of its reply and
the client reads them.

Main statements: an engine reads the request that was written, except for the body, which travels
beside it (`NetRequest.arrival`), and a client reads the reply that was written
(`NetMeta.reception`).
-/

namespace HostBridge

/-- The names of the members of an object, in the order in which they are written. -/
def Json.Decoder.memberNames : Json.Decoder (List String)
  | .object members => members.mapM (fun member => Json.textOfPieces? member.1)
  | _ => none

/-- The names of an object's members are read off in order. -/
theorem Json.Decoder.memberNames_tree (members : List (String × Json)) :
    memberNames (Json.object members).tree = some (members.map Prod.fst) := by
  rw [Json.tree, memberNames]
  induction members with
  | nil => rfl
  | cons member members ih =>
      rw [Json.memberTrees, List.mapM_cons, Json.textOfPieces?_pieces, ih]
      rfl

/-- Every method is read back from its word. -/
theorem NetMethod.ofWord?_word (method : NetMethod) : ofWord? method.word = some method := by
  cases method <;> decide

namespace NetRequest

/-- The bytes that a client sends to its engine. -/
def wire (request : NetRequest) : Bytes := Text.encodeUtf8 request.render

/-- Requests are written without fractions. -/
theorem isIntegral_toJson (request : NetRequest) : request.toJson.isIntegral = true := by
  have headers := Json.isIntegral_ofTexts request.headers.entries
  apply Json.isIntegral_object
  cases request.followRedirects <;> simp [Json.isIntegral, headers]

/-- Whatever reads the bytes of a request reads the value that was written. -/
theorem decodeBytes_wire {α : Type} (decode : Json.Decoder α) (request : NetRequest) :
    Json.decodeBytes decode request.wire = decode request.toJson.tree :=
  Json.decodeBytes_render decode request.isIntegral_toJson

/-- A request is written with these members and no others, in order. -/
theorem names_wire (request : NetRequest) :
    Json.decodeBytes Json.Decoder.memberNames request.wire =
      some (["url", "method", "headers"] ++
        if request.followRedirects.isSome then ["followRedirects"] else []) := by
  rw [decodeBytes_wire, toJson, Json.Decoder.memberNames_tree, List.map_append]
  cases request.followRedirects <;> rfl

/-- A request is read back from what was written, without its body. -/
theorem decode_tree (request : NetRequest) :
    decode request.toJson.tree = some { request with body := none } := by
  obtain ⟨url, method, headers, follow, body⟩ := request
  rw [decode, toJson]
  cases follow with
  | none =>
      rw [Json.Record.ofTree?_object (by simp) (by simp)]
      simp [Json.Record.required_ofMembers, Json.Record.withDefault_ofMembers, Json.get?,
        NetMethod.decode, NetMethod.ofWord?_word]
  | some follow =>
      rw [Json.Record.ofTree?_object (by simp) (by simp)]
      simp [Json.Record.required_ofMembers, Json.Record.withDefault_ofMembers, Json.get?,
        NetMethod.decode, NetMethod.ofWord?_word]
      rfl

/-- The bytes of a request are read back as the request, without its body. -/
theorem ofBytes_wire (request : NetRequest) (complain : Complaint) :
    ofBytes complain request.wire = .ok { request with body := none } := by
  rw [ofBytes, decodeBytes_wire, decode_tree]

/-- How a request is begun. -/
inductive Opening where
  | new (method : NetMethod) (url : String)
  | get (url : String)
  | post (url : String) (body : Bytes)

/-- What is said about a request once it is begun. -/
inductive Setting where
  | header (name value : String)
  | body (bytes : Bytes)
  | follow (said : Bool)

def opened : Opening → NetRequest
  | .new method url => new method url
  | .get url => get url
  | .post url body => post url body

def set (request : NetRequest) : Setting → NetRequest
  | .header name value => request.withHeader name value
  | .body bytes => request.withBody bytes
  | .follow said => request.withFollow said

/-- What a setting says about redirects. -/
def Setting.follow? : Setting → Option Bool
  | .follow said => some said
  | _ => none

/-- What was said last about redirects. -/
def lastFollow? (settings : List Setting) : Option Bool :=
  (settings.filterMap Setting.follow?).getLast?

/-- The last setting of redirects counts. -/
theorem followRedirects_settings (request : NetRequest) (settings : List Setting) :
    (settings.foldl set request).followRedirects =
      match lastFollow? settings with
      | none => request.followRedirects
      | some follow => if follow then none else some false := by
  induction settings using List.reverseRecOn with
  | nil => rfl
  | append_singleton settings setting ih =>
      rw [List.foldl_concat, lastFollow?, List.filterMap_append, List.getLast?_append]
      cases setting with
      | header name value => exact ih
      | body bytes => exact ih
      | follow said => cases said <;> rfl

/-- A new request says nothing of redirects. -/
theorem followRedirects_opened (opening : Opening) : (opened opening).followRedirects = none := by
  cases opening <;> rfl

/-- Redirects are mentioned if and only if the last setting turns them off. -/
theorem isSome_followRedirects (opening : Opening) (settings : List Setting) :
    (settings.foldl set (opened opening)).followRedirects.isSome = true ↔
      lastFollow? settings = some false := by
  rw [followRedirects_settings, followRedirects_opened]
  rcases lastFollow? settings with _ | _ | _ <;> simp

/-- A request arrives as it was written, without its body. -/
structure Arrives (request : NetRequest) : Prop where
  read : ∀ complain, ofBytes complain request.wire = .ok { request with body := none }
  agrees : ∀ complain arrived, ofBytes complain request.wire = .ok arrived →
    arrived.follows = request.follows ∧ arrived.headers = request.headers
  /-- Whatever the body, the same text is written. -/
  bodiless : ∀ body, wire { request with body := body } = request.wire
  names : Json.decodeBytes Json.Decoder.memberNames request.wire =
    some (["url", "method", "headers"] ++
      if request.followRedirects.isSome then ["followRedirects"] else [])
  /-- What a client sends is read. -/
  sent : ∀ (session : NetSession) (outgoing : NetRequest),
    (session.call request).2.1 = some outgoing →
      ∀ complain, ofBytes complain outgoing.wire = .ok { request with body := none }
  /-- An engine with any transport makes the request and answers with segments. -/
  answered : ∀ {σ Address : Type} [DecidableEq Address] (transport : Transport σ Address)
      (state : σ) (body : Option Bytes) (elapsed : Nat),
    transport.call state request.wire body elapsed =
        Prod.map id Transport.segments
          (transport.run state { request with body := none } body elapsed) ∧
      (transport.call state request.wire body elapsed).2 ≠ []

/-- What reaches the engine is the request. -/
theorem eq_of_sent {session : NetSession} {request outgoing : NetRequest}
    (sent : (session.call request).2.1 = some outgoing) : outgoing = request := by
  rw [NetSession.call] at sent
  split at sent
  · cases sent
  · dsimp only at sent
    split at sent
    · exact (Option.some.inj sent).symm
    · exact (Option.some.inj sent).symm

/-- An engine makes the request that was written, whatever carries it. -/
theorem call_wire {σ Address : Type} [DecidableEq Address] (transport : Transport σ Address)
    (state : σ) (request : NetRequest) (body : Option Bytes) (elapsed : Nat) :
    transport.call state request.wire body elapsed =
      Prod.map id Transport.segments
        (transport.run state { request with body := none } body elapsed) := by
  rw [Transport.call, ofBytes_wire]

/-- Every result is answered with metadata at least. -/
theorem segments_ne_nil (result : Except String (NetMeta × Bytes)) :
    Transport.segments result ≠ [] := by
  cases result <;> exact List.cons_ne_nil _ _

/-- An engine reads every request that is written, except for the body, and whether it is told not
to follow redirects depends on what was said last. -/
theorem arrival : (∀ request : NetRequest, request.Arrives) ∧
    ∀ (opening : Opening) (settings : List Setting), ∃ names,
      Json.decodeBytes Json.Decoder.memberNames (settings.foldl set (opened opening)).wire =
          some names ∧
        ("followRedirects" ∈ names ↔ lastFollow? settings = some false) := by
  constructor
  · intro request
    constructor
    · exact request.ofBytes_wire
    · intro complain arrived read
      cases (request.ofBytes_wire complain).symm.trans read
      exact ⟨rfl, rfl⟩
    · intro body
      rfl
    · exact request.names_wire
    · intro session outgoing sent
      rw [eq_of_sent sent]
      exact request.ofBytes_wire
    · intro σ Address _ transport state body elapsed
      rw [call_wire]
      exact ⟨rfl, segments_ne_nil _⟩
  · intro opening settings
    refine ⟨_, names_wire _, ?_⟩
    rw [← isSome_followRedirects opening settings]
    by_cases told : (settings.foldl set (opened opening)).followRedirects.isSome <;> simp [told]

end NetRequest

namespace NetMeta

/-- The metadata of a response holds integers only. -/
theorem isIntegral_toJson (info : NetMeta) : info.toJson.isIntegral = true := by
  have text (s : Option String) : (Json.ofOption .string s).isIntegral = true :=
    Json.isIntegral_ofOption (fun _ => rfl) s
  have length : (Json.ofOption (fun n : Int64 => .ofInt n.toInt) info.contentLength).isIntegral =
      true := Json.isIntegral_ofOption (fun n : Int64 => Json.isIntegral_ofInt n.toInt) _
  apply Json.isIntegral_object
  simp [Json.isIntegral, Json.isIntegral_ofTexts, Json.ofNat, text, length]

/-- The metadata of a response is read back from its tree. -/
theorem decode_tree (info : NetMeta) : decode info.toJson.tree = some info := by
  rw [decode, toJson, Json.Record.ofTree?_object (by simp) (by simp)]
  simp [Json.Record.required_ofMembers, Json.Record.withDefault_ofMembers, Json.get?]

/-- Metadata are read back from what was written. -/
theorem ofBytes?_render (info : NetMeta) : ofBytes? (Text.encodeUtf8 info.render) = some info := by
  rw [ofBytes?, render, Json.decodeBytes_render decode info.isIntegral_toJson, decode_tree]

end NetMeta

namespace NetResponse

/-- A reply whose first segment can be read becomes a response with the next segment as its body. -/
theorem ofSegments_of_ofBytes? {head : Bytes} {info : NetMeta}
    (read : NetMeta.ofBytes? head = some info) (complain : Complaint) (rest : List Bytes) :
    ofSegments complain (head :: rest) = .ok (ofMeta info rest.head?) := by
  cases head with
  | nil => cases read
  | cons byte bytes =>
      rw [ofSegments, read]
      exact nofun

/-- A response has the metadata and the body that were sent. -/
structure Carries (response : NetResponse) (info : NetMeta) (body : Option Bytes) : Prop where
  code : response.code = info.code
  message : response.message = info.message
  error : response.error = info.error
  headers : response.headers = info.headers
  contentLength : response.contentLength = info.contentLength
  currentUrl : response.currentUrl = info.currentUrl
  body : response.body = body

/-- The response of metadata carries them. -/
theorem carries_ofMeta (info : NetMeta) (body : Option Bytes) :
    (ofMeta info body).Carries info body :=
  ⟨rfl, rfl, rfl, rfl, rfl, rfl, rfl⟩

end NetResponse

namespace NetMeta

/-- Metadata and body arrive as they were sent. -/
theorem ofSegments_segments (info : NetMeta) (body : Option Bytes) (complain : Complaint) :
    NetResponse.ofSegments complain (info.segments body) = .ok (NetResponse.ofMeta info body) := by
  rw [segments, NetResponse.ofSegments_of_ofBytes? info.ofBytes?_render]
  cases body <;> rfl

/-- A failure becomes an error with its code. -/
theorem result_failure (error : String) (body : Option Bytes) :
    (NetResponse.ofMeta (failure error) body).result =
      .error (.transport (error ++ " (500)")) := by
  have text : error ++ " (" ++ toString (500 : UInt16).toNat ++ ")" = error ++ " (500)" := by
    rw [String.append_assoc, String.append_assoc]
    rfl
  change Except.error (BridgeError.transport (error ++ " (" ++ _ ++ ")")) = _
  rw [← text]
  rfl

/-- A client reads every reply that is written, and finds a request that failed within the native
side to have failed with the error it was given. -/
theorem reception :
    (∀ (complain : Complaint) (info : NetMeta) (body : Option Bytes), ∃ response,
      NetResponse.ofSegments complain (info.segments body) = .ok response ∧
        response.Carries info body) ∧
    ∀ (complain : Complaint) (error : String), ∃ response,
      NetResponse.ofSegments complain ((failure error).segments none) = .ok response ∧
        response.code = 500 ∧ response.error = some error ∧ response.body = none ∧
          response.result = .error (.transport (error ++ " (500)")) := by
  constructor
  · intro complain info body
    exact ⟨_, info.ofSegments_segments body complain, NetResponse.carries_ofMeta info body⟩
  · intro complain error
    exact ⟨_, (failure error).ofSegments_segments none complain, rfl, rfl, rfl,
      result_failure error none⟩

end NetMeta

end HostBridge
