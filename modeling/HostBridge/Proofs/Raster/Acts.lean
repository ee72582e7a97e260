import HostBridge.Proofs.Image.Calls
import HostBridge.Proofs.Raster.Drawing

/-!
# What a call comes to

A call of a raster engine makes one picture at the next address, paints a surface, lets one picture
go, or leaves the engine as it is; there is nothing else that it can do (`Engine.acts_perform`).
-/

namespace HostBridge.Raster.Engine

/-- The picture of a resource, if the engine knows it. -/
def picture? (engine : Engine) (resource : Resource) : Option Picture :=
  (engine.table resource.kind).find? resource.address

/-- An engine that holds a picture as a resource. -/
def holding (engine : Engine) (picture : Picture) : Resource → Engine
  | ⟨.image, address⟩ => { engine with images := engine.images.insert address picture }
  | ⟨.surface, address⟩ => { engine with surfaces := engine.surfaces.insert address picture }

/-- An engine that let a resource go. -/
def without (engine : Engine) : Resource → Engine
  | ⟨.image, address⟩ => { engine with images := engine.images.erase address }
  | ⟨.surface, address⟩ => { engine with surfaces := engine.surfaces.erase address }

/-- An engine whose next address was used up. -/
def advanced (engine : Engine) : Engine := { engine with next := engine.next + 1 }

/-- Putting a picture somewhere takes no address. -/
@[simp] theorem next_holding (engine : Engine) (picture : Picture) (resource : Resource) :
    (engine.holding picture resource).next = engine.next := by
  obtain ⟨kind, address⟩ := resource
  cases kind <;> rfl

/-- Removing a picture gives no address back. -/
@[simp] theorem next_without (engine : Engine) (resource : Resource) :
    (engine.without resource).next = engine.next := by
  obtain ⟨kind, address⟩ := resource
  cases kind <;> rfl

/-- Taking an address leaves all pictures where they are. -/
@[simp] theorem picture?_advanced (engine : Engine) (resource : Resource) :
    engine.advanced.picture? resource = engine.picture? resource := by
  obtain ⟨kind, address⟩ := resource
  cases kind <;> rfl

/-- A picture that was put somewhere is there, and the others stay. -/
theorem picture?_holding (engine : Engine) (picture : Picture) (resource other : Resource) :
    (engine.holding picture resource).picture? other =
      if other = resource then some picture else engine.picture? other := by
  obtain ⟨kind, address⟩ := resource
  obtain ⟨otherKind, otherAddress⟩ := other
  cases kind <;> cases otherKind <;> simp [picture?, holding, table, Table.find?_insert]

/-- A picture that was removed is gone, and the others stay. -/
theorem picture?_without (engine : Engine) (resource other : Resource) :
    (engine.without resource).picture? other =
      if other = resource then none else engine.picture? other := by
  obtain ⟨kind, address⟩ := resource
  obtain ⟨otherKind, otherAddress⟩ := other
  cases kind <;> cases otherKind <;> simp [picture?, without, table, Table.find?_erase]

/-- Removing what is not there changes nothing. -/
theorem without_of_absent {engine : Engine} {resource : Resource}
    (absent : engine.picture? resource = none) : engine.without resource = engine := by
  obtain ⟨kind, address⟩ := resource
  cases kind with
  | image =>
      have kept : engine.images.erase address = engine.images := Table.erase_of_absent _ absent
      rw [without, kept]
  | surface =>
      have kept : engine.surfaces.erase address = engine.surfaces := Table.erase_of_absent _ absent
      rw [without, kept]

/-- What a call can do to an engine, and the answer it has then. -/
inductive Acts (engine : Engine) : Deed → Engine → Prop where
  | keeps {deed : Deed} (unmade : deed.made? = none) (unfreed : deed.freed? = none) :
      Acts engine deed engine
  | makes (kind : Kind) (picture : Picture) :
      Acts engine (.make kind (.ok engine.next))
        (engine.holding picture ⟨kind, engine.next⟩).advanced
  | paints {surface : UInt64} {old : Picture} (new : Picture)
      (found : engine.picture? ⟨.surface, surface⟩ = some old) :
      Acts engine (.use (.ok ())) (engine.holding new ⟨.surface, surface⟩)
  | frees (resource : Resource) : Acts engine (.release resource) (engine.without resource)

/-- Encoding a surface that is not there fails and names it. -/
theorem encodeSurfaceWith_of_absent {engine : Engine} {surface : UInt64}
    (absent : engine.surfaces.find? surface = none) (tools : Tools) (format : ImageFormat) :
    engine.encodeSurfaceWith tools surface format =
      ⟨engine, .error (.unknownHandle surface), [], []⟩ := by
  rw [encodeSurfaceWith, absent]
  rfl

theorem encodeImageWith_of_absent {engine : Engine} {image : UInt64}
    (absent : engine.images.find? image = none) (tools : Tools) (format : ImageFormat) :
    engine.encodeImageWith tools image format =
      ⟨engine, .error (.unknownHandle image), [], []⟩ := by
  rw [encodeImageWith, absent]
  rfl

/-- Encoding a surface changes nothing. -/
theorem engine_encodeSurfaceWith (tools : Tools) (engine : Engine) (surface : UInt64)
    (format : ImageFormat) : (engine.encodeSurfaceWith tools surface format).engine = engine := by
  unfold encodeSurfaceWith
  split <;> rfl

theorem engine_encodeImageWith (tools : Tools) (engine : Engine) (image : UInt64)
    (format : ImageFormat) : (engine.encodeImageWith tools image format).engine = engine := by
  unfold encodeImageWith
  split <;> rfl

/-- An image that is decoded is held under the next address. -/
theorem decodeWith_eq_ok {engine : Engine} {load : List UInt8 → Except String Picture}
    {bytes : List UInt8} {image : DecodedImage}
    (decoded : (engine.decodeWith load bytes).result = .ok image) :
    ∃ picture, load bytes = .ok picture ∧ image.address = engine.next ∧
      (engine.decodeWith load bytes).engine =
        (engine.holding picture ⟨.image, engine.next⟩).advanced := by
  unfold decodeWith at decoded ⊢
  cases loaded : load bytes with
  | error why =>
      rw [loaded] at decoded
      cases decoded
  | ok picture =>
      rw [loaded] at decoded
      cases decoded
      exact ⟨picture, rfl, rfl, rfl⟩

section Acts

variable (tools : Tools) (engine : Engine)

/-- Decoding makes an image or changes nothing. -/
theorem acts_decodeWith (load : List UInt8 → Except String Picture) (bytes : List UInt8) :
    engine.Acts
      (.make .image ((engine.decodeWith load bytes).result.map DecodedImage.address))
      (engine.decodeWith load bytes).engine := by
  unfold decodeWith
  cases load bytes with
  | error why => exact .keeps rfl rfl
  | ok picture => exact .makes .image picture

/-- Creating a surface makes one or changes nothing. -/
theorem acts_createSurface (width height : UInt32) :
    engine.Acts (.make .surface (engine.createSurface width height).result)
      (engine.createSurface width height).engine := by
  unfold createSurface
  split
  · exact .keeps rfl rfl
  · exact .makes .surface _

/-- Drawing uses what is there. -/
theorem acts_drawWith (image surface : UInt64) (source target : Rect) :
    engine.Acts (.use (engine.drawWith tools image surface source target).result)
      (engine.drawWith tools image surface source target).engine := by
  cases drawn : engine.images.find? image with
  | none =>
      rw [drawWith_of_absent drawn]
      exact .keeps rfl rfl
  | some picture =>
      rw [drawWith_of_present drawn]
      have draws := draws_drawPicture tools engine picture surface source target
      generalize engine.drawPicture tools picture surface source target = reply at draws ⊢
      cases draws with
      | skips _ => exact .keeps rfl rfl
      | refuses _ _ => exact .keeps rfl rfl
      | misses _ _ _ => exact .keeps rfl rfl
      | paints _ found _ => exact .paints _ found

theorem acts_encodeSurfaceWith (surface : UInt64) (format : ImageFormat) :
    engine.Acts
      (.use ((engine.encodeSurfaceWith tools surface format).result.map (fun _ => ())))
      (engine.encodeSurfaceWith tools surface format).engine := by
  rw [engine_encodeSurfaceWith]
  exact .keeps rfl rfl

theorem acts_encodeImageWith (image : UInt64) (format : ImageFormat) :
    engine.Acts
      (.use ((engine.encodeImageWith tools image format).result.map (fun _ => ())))
      (engine.encodeImageWith tools image format).engine := by
  rw [engine_encodeImageWith]
  exact .keeps rfl rfl

end Acts

/-- A call of an engine that works with the given tools. -/
def perform (tools : Tools) (engine : Engine) : ImageCall → EngineReply Engine Deed :=
  @ImageEngine.perform (Engine.Using tools) _ engine

/-- Each call acts on the engine in one of the ways there are. -/
theorem acts_perform (tools : Tools) (engine : Engine) (call : ImageCall) :
    engine.Acts (engine.perform tools call).result (engine.perform tools call).engine := by
  cases call with
  | decode bytes => exact acts_decodeWith engine tools.load bytes
  | surface width height => exact acts_createSurface engine width height
  | draw image surface source target => exact acts_drawWith tools engine image surface source target
  | encodeSurface surface format quality => exact acts_encodeSurfaceWith tools engine surface format
  | encodeImage image format quality => exact acts_encodeImageWith tools engine image format
  | releaseImage image => exact .frees ⟨.image, image⟩
  | releaseSurface surface => exact .frees ⟨.surface, surface⟩

/-- An engine after calls. -/
def after (tools : Tools) (engine : Engine) (calls : List ImageCall) : Engine :=
  calls.foldl (fun engine call => (engine.perform tools call).engine) engine

/-- What calls make of an engine, in order. -/
def made (tools : Tools) (engine : Engine) : List ImageCall → List Resource
  | [] => []
  | call :: calls =>
    (engine.perform tools call).result.made?.toList ++
      (engine.perform tools call).engine.made tools calls

theorem after_append (tools : Tools) (engine : Engine) (first second : List ImageCall) :
    engine.after tools (first ++ second) = (engine.after tools first).after tools second :=
  List.foldl_append ..

theorem made_append (tools : Tools) (engine : Engine) (first second : List ImageCall) :
    engine.made tools (first ++ second) =
      engine.made tools first ++ (engine.after tools first).made tools second := by
  induction first generalizing engine with
  | nil => rfl
  | cons call calls ih =>
      rw [List.cons_append, made, made, ih, List.append_assoc]
      rfl

/-- A call that is answered with an error leaves the engine as it is. -/
theorem Acts.engine_of_error {before after : Engine} {deed : Deed} (acts : before.Acts deed after)
    {error : EngineError} (failed : deed.error? = some error) : after = before := by
  cases acts with
  | keeps _ _ => rfl
  | makes _ _ => cases failed
  | paints _ _ => cases failed
  | frees _ => cases failed

/-! ### Calls that ask for something unknown -/

/-- What becomes of a call that asks for something unknown: nothing.  A draw without an area is
skipped before the surface is looked for. -/
inductive Dismisses (engine : Engine) : ImageCall → Deed → Engine → Prop where
  | refuses {call : ImageCall} {deed : Deed} (resource : Resource) (named : resource ∈ call.names)
      (absent : engine.picture? resource = none)
      (told : deed.error? = some (.unknownHandle resource.address)) :
      Dismisses engine call deed engine
  | ignores (resource : Resource) : Dismisses engine (.release resource) (.release resource) engine
  | skips {image : UInt64} {picture : Picture} (surface : UInt64) {source target : Rect}
      (drawn : engine.picture? ⟨.image, image⟩ = some picture)
      (empty : ¬ HasArea picture source target) :
      Dismisses engine (.draw image surface source target) (.use (.ok ())) engine

section Dismisses

variable {engine : Engine}

/-- Drawing from or onto what is not there is dismissed. -/
theorem dismisses_draw (tools : Tools) {image surface : UInt64} (source target : Rect)
    (absent : engine.picture? ⟨.image, image⟩ = none ∨ engine.picture? ⟨.surface, surface⟩ = none) :
    engine.Dismisses (.draw image surface source target)
      (.use (engine.drawWith tools image surface source target).result)
      (engine.drawWith tools image surface source target).engine := by
  cases drawn : engine.images.find? image with
  | none =>
      rw [drawWith_of_absent drawn]
      exact .refuses ⟨.image, image⟩ (List.mem_cons_self ..) drawn rfl
  | some picture =>
      have missing : engine.surfaces.find? surface = none := by
        rcases absent with unknown | unknown
        · cases drawn.symm.trans unknown
        · exact unknown
      rw [drawWith_of_present drawn]
      have draws := draws_drawPicture tools engine picture surface source target
      generalize engine.drawPicture tools picture surface source target = reply at draws ⊢
      cases draws with
      | skips empty => exact .skips surface drawn empty
      | refuses _ _ =>
          exact .refuses ⟨.surface, surface⟩ (List.mem_cons_of_mem _ (List.mem_cons_self ..))
            missing rfl
      | misses _ found _ => cases missing.symm.trans found
      | paints _ found _ => cases missing.symm.trans found

/-- Encoding a surface that is not there is dismissed. -/
theorem dismisses_encodeSurface (tools : Tools) {surface : UInt64} (format : ImageFormat)
    (quality : Nat) (absent : engine.picture? ⟨.surface, surface⟩ = none) :
    engine.Dismisses (.encodeSurface surface format quality)
      (.use ((engine.encodeSurfaceWith tools surface format).result.map (fun _ => ())))
      (engine.encodeSurfaceWith tools surface format).engine := by
  rw [encodeSurfaceWith_of_absent absent]
  exact .refuses ⟨.surface, surface⟩ (List.mem_cons_self ..) absent rfl

theorem dismisses_encodeImage (tools : Tools) {image : UInt64} (format : ImageFormat)
    (quality : Nat) (absent : engine.picture? ⟨.image, image⟩ = none) :
    engine.Dismisses (.encodeImage image format quality)
      (.use ((engine.encodeImageWith tools image format).result.map (fun _ => ())))
      (engine.encodeImageWith tools image format).engine := by
  rw [encodeImageWith_of_absent absent]
  exact .refuses ⟨.image, image⟩ (List.mem_cons_self ..) absent rfl

/-- Releasing what is not there is dismissed. -/
theorem dismisses_release {resource : Resource} (absent : engine.picture? resource = none) :
    engine.Dismisses (.release resource) (.release resource) (engine.without resource) := by
  rw [without_of_absent absent]
  exact .ignores resource

end Dismisses

/-- A call that asks for something unknown is dismissed. -/
theorem dismisses_perform (tools : Tools) {engine : Engine} {call : ImageCall}
    {resource : Resource} (named : resource ∈ call.names)
    (absent : engine.picture? resource = none) :
    engine.Dismisses call (engine.perform tools call).result
      (engine.perform tools call).engine := by
  cases call with
  | decode bytes => cases named
  | surface width height => cases named
  | draw image surface source target =>
      apply dismisses_draw
      rcases List.mem_pair.mp named with rfl | rfl
      · exact .inl absent
      · exact .inr absent
  | encodeSurface surface format quality =>
      obtain rfl := List.mem_singleton.mp named
      exact dismisses_encodeSurface tools format quality absent
  | encodeImage image format quality =>
      obtain rfl := List.mem_singleton.mp named
      exact dismisses_encodeImage tools format quality absent
  | releaseImage image =>
      obtain rfl := List.mem_singleton.mp named
      exact dismisses_release absent
  | releaseSurface surface =>
      obtain rfl := List.mem_singleton.mp named
      exact dismisses_release absent

end HostBridge.Raster.Engine
