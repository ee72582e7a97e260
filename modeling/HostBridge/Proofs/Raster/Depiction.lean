import HostBridge.Proofs.Raster.Addressing

/-!
# The picture that a draw shows

A bitmap asks the engine of the target for the picture under the address of the source, whichever
engine has given this address to the source.

Main statement: drawn with the engine that decoded it, a bitmap shows the picture that it was
decoded from; drawn with another engine, it shows what that engine has under the same address, and
nothing if that engine has no image there (`Bitmap.depiction`).
-/

namespace HostBridge.Bitmap

open Raster (Engine Picture Resource Tools)

/-- Decode an image with a raster engine. -/
def decodeWith (tools : Tools) (engine : Engine) (bytes : List UInt8) :
    EngineReply Engine (Except BridgeError Bitmap) :=
  @decode (Engine.Using tools) _ engine bytes

/-- Create a surface with a raster engine. -/
def createWith (tools : Tools) (engine : Engine) (width height : UInt32) :
    EngineReply Engine (Except BridgeError Bitmap) :=
  @create (Engine.Using tools) _ engine width height

/-- Draw with the raster engine of the target. -/
def drawWith (tools : Tools) (engine : Engine) (target source : Bitmap) (part place : Rect) :
    EngineReply Engine Bool :=
  @draw (Engine.Using tools) _ engine target source part place

/-- The resource that a bitmap draws from. -/
def drawn (source : Bitmap) : Resource := ⟨.image, source.image.address⟩

/-- What a draw can come to: nothing, or the engine draws the picture that it has under the address
of the source. -/
inductive Shows (tools : Tools) (engine : Engine) (target source : Bitmap) (part place : Rect) :
    Bool → Engine → Prop where
  | nothing : Shows tools engine target source part place false engine
  | picture {shown : Picture} (held : engine.picture? source.drawn = some shown) :
      Shows tools engine target source part place true
        (engine.drawPicture tools shown target.surface.address part place).engine

/-- A draw shows what its engine drew, whatever its reply. -/
theorem shows_of_reply {tools : Tools} {engine : Engine} {target source : Bitmap}
    {part place : Rect} {reply : EngineReply Engine (Except EngineError Unit)}
    (asked : engine.drawWith tools source.image.address target.surface.address part place = reply) :
    Shows tools engine target source part place reply.result.isOk reply.engine := by
  obtain ⟨later, result, calls, log⟩ := reply
  cases result with
  | error error =>
      have acts := engine.acts_drawWith tools source.image.address target.surface.address part place
      rw [asked] at acts
      obtain rfl : later = engine := acts.engine_of_error rfl
      exact .nothing
  | ok done =>
      cases held : engine.images.find? source.image.address with
      | none => cases (Engine.drawWith_of_absent held ..).symm.trans asked
      | some shown =>
          rw [Engine.drawWith_of_present held] at asked
          have drew : later = (engine.drawPicture tools shown target.surface.address part place).engine :=
            congrArg EngineReply.engine asked.symm
          rw [drew]
          exact .picture held

/-- Drawing through a bitmap shows what the engine holds under its address. -/
theorem shows_drawWith (tools : Tools) (engine : Engine) (target source : Bitmap)
    (part place : Rect) :
    Shows tools engine target source part place
      (drawWith tools engine target source part place).result
      (drawWith tools engine target source part place).engine := by
  unfold drawWith draw
  split
  · exact .nothing
  · dsimp only
    split
    · exact .nothing
    · generalize asked : @ImageEngine.draw (Engine.Using tools) _ engine source.image.address
        target.surface.address part place = reply
      have shows := shows_of_reply asked
      obtain ⟨later, result, calls, log⟩ := reply
      cases result with
      | error error => exact shows
      | ok done => exact shows

/-- Decoding succeeds with the address that the engine gives. -/
theorem decode_eq_ok {ε : Type} [ImageEngine ε] {engine : ε} {bytes : List UInt8} {source : Bitmap}
    (decoded : (decode engine bytes).result = .ok source) :
    ∃ image, (ImageEngine.decode engine bytes).result = .ok image ∧
      source.image = ⟨image.address⟩ ∧
        (decode engine bytes).engine = (ImageEngine.decode engine bytes).engine := by
  unfold decode at decoded ⊢
  split at decoded
  next => cases decoded
  next solid =>
    rw [if_neg solid]
    generalize ImageEngine.decode engine bytes = reply at decoded ⊢
    obtain ⟨later, result, calls, log⟩ := reply
    cases result with
    | error error => cases decoded
    | ok image =>
        dsimp only at decoded ⊢
        split at decoded
        next => cases decoded
        next issued =>
          rw [if_neg issued]
          cases decoded
          exact ⟨image, rfl, rfl, rfl⟩

/-- What draws of a bitmap show that was decoded from a file with a picture, where `home` is the
engine that decoded it, at some later time. -/
structure Depicts (tools : Tools) (source : Bitmap) (own : Picture) (home : Engine) : Prop where
  atHome : ∀ target part place,
    let reply := drawWith tools home target source part place
    reply.result = true →
      reply.engine = (home.drawPicture tools own target.surface.address part place).engine
  anywhere : ∀ engine target part place,
    let reply := drawWith tools engine target source part place
    Shows tools engine target source part place reply.result reply.engine
  abroad : ∀ engine target part place, engine.picture? source.drawn = none →
    let reply := drawWith tools engine target source part place
    reply.result = false ∧ reply.engine = engine

/-- A draw that answers true has drawn the picture under the address. -/
theorem shown_of_true {tools : Tools} {engine later : Engine} {target source : Bitmap}
    {part place : Rect} {result : Bool}
    (shows : Shows tools engine target source part place result later) (drew : result = true) :
    ∃ shown, engine.picture? source.drawn = some shown ∧
      later = (engine.drawPicture tools shown target.surface.address part place).engine := by
  cases shows with
  | nothing => cases drew
  | picture held => exact ⟨_, held, rfl⟩

/-- Where there is no picture under the address nothing is drawn. -/
theorem nothing_of_absent {tools : Tools} {engine later : Engine} {target source : Bitmap}
    {part place : Rect} {result : Bool}
    (shows : Shows tools engine target source part place result later)
    (absent : engine.picture? source.drawn = none) : result = false ∧ later = engine := by
  cases shows with
  | nothing => exact ⟨rfl, rfl⟩
  | picture held => cases absent.symm.trans held

/-- An image keeps its picture as long as the engine knows it. -/
theorem eq_of_shown {tools : Tools} {engine : Engine} {issued : List Resource}
    (numbered : Engine.Numbered issued engine) {own shown : Picture} {calls : List ImageCall}
    (room : (issued ++ [(⟨.image, engine.next⟩ : Resource)] ++
      (engine.holding own ⟨.image, engine.next⟩).advanced.made tools calls).length <
        UInt64.size - 1)
    (found : ((engine.holding own ⟨.image, engine.next⟩).advanced.after tools calls).picture?
      ⟨.image, engine.next⟩ = some shown) : own = shown := by
  have first : issued.length + 1 < UInt64.size - 1 := by
    rw [List.length_append, List.length_append, List.length_singleton] at room
    omega
  have used : engine.next ∈
      (issued ++ [(⟨.image, engine.next⟩ : Resource)]).map Resource.address :=
    List.mem_map_of_mem (List.mem_append_right _ (List.mem_cons_self ..))
  obtain ⟨old, held, kept⟩ :=
    Engine.earlier_after (numbered.make .image own first) room used found
  rw [Engine.picture?_advanced, Engine.picture?_holding, if_pos rfl] at held
  exact (Option.some.inj held).trans (kept rfl)

/-- A decoded image is made under the address that the engine gives. -/
theorem result_perform_decode {tools : Tools} {engine : Engine} {bytes : List UInt8}
    {image : DecodedImage} (decoded : (engine.decodeWith tools.load bytes).result = .ok image) :
    (engine.perform tools (.decode bytes)).result = .make .image (.ok image.address) := by
  change Raster.Deed.make .image ((engine.decodeWith tools.load bytes).result.map _) = _
  rw [decoded]
  rfl

/-- With fewer than `UInt64.size - 1` resources made, a bitmap is drawn with the engine that decoded
it as the picture that it was decoded from, whatever calls come in between.  Another engine draws
what it has itself under the address of the bitmap, and only if it has nothing there, it draws
nothing. -/
theorem depiction (tools : Tools) (earlier later : List ImageCall) (bytes : List UInt8)
    (source : Bitmap)
    (room : (Engine.new.made tools (earlier ++ .decode bytes :: later)).length < UInt64.size - 1)
    (decoded : (decodeWith tools (Engine.new.after tools earlier) bytes).result = .ok source) :
    ∃ own, tools.load bytes = .ok own ∧
      Depicts tools source own
        ((decodeWith tools (Engine.new.after tools earlier) bytes).engine.after tools later) := by
  rw [Engine.made_append] at room
  have before : (Engine.new.made tools earlier).length < UInt64.size - 1 := by
    rw [List.length_append] at room
    omega
  have numbered := Engine.numbered_after before
  generalize Engine.new.after tools earlier = engine at room decoded numbered ⊢
  obtain ⟨image, told, named, carried⟩ := @decode_eq_ok (Engine.Using tools) _ _ _ _ decoded
  obtain ⟨own, loaded, issued, held⟩ := Engine.decodeWith_eq_ok told
  have home : (decodeWith tools engine bytes).engine =
      (engine.holding own ⟨.image, engine.next⟩).advanced := carried.trans held
  have here : source.drawn = ⟨.image, engine.next⟩ := by
    rw [drawn, named, issued]
  have performed : (engine.perform tools (.decode bytes)).engine =
      (engine.holding own ⟨.image, engine.next⟩).advanced := held
  rw [Engine.made, result_perform_decode told, issued, performed, ← List.append_assoc] at room
  refine ⟨own, loaded, ?_⟩
  rw [home]
  constructor
  case atHome =>
    intro target part place reply drew
    obtain ⟨shown, found, drawn⟩ := shown_of_true (shows_drawWith ..) drew
    rw [here] at found
    obtain rfl := eq_of_shown numbered room found
    exact drawn
  case anywhere => exact fun engine target part place => shows_drawWith ..
  case abroad => exact fun engine target part place => nothing_of_absent (shows_drawWith ..)

/-- An image of one pixel that is drawn after another surface was made. -/
theorem depiction_of_pixel :
    let red : List UInt8 := [80, 54, 32, 49, 32, 49, 32, 50, 53, 53, 10, 255, 0, 0]
    let source : Bitmap := ⟨⟨1⟩, .empty, 1, 1⟩
    let home := (decodeWith .standard .new red).engine.after .standard [.surface 1 1]
    (decodeWith .standard .new red).result = .ok source ∧
      ∃ own, Tools.standard.load red = .ok own ∧ Depicts .standard source own home := by
  intro red source home
  have decoded : (decodeWith .standard .new red).result = .ok source := by decide +kernel
  exact ⟨decoded, depiction .standard [] [.surface 1 1] red source (by decide +kernel) decoded⟩

/-- Two engines of their own decode one pixel each, the first a red and the second a green one, and
the second creates a surface.  The red bitmap, drawn onto this surface, is reported as drawn and
shows green. -/
theorem draws_foreign_picture :
    let red : List UInt8 := [80, 54, 32, 49, 32, 49, 32, 50, 53, 53, 10, 255, 0, 0]
    let green : List UInt8 := [80, 54, 32, 49, 32, 49, 32, 50, 53, 53, 10, 0, 255, 0]
    let first := decodeWith .standard .new red
    let created := createWith .standard (decodeWith .standard .new green).engine 1 1
    let source : Bitmap := ⟨⟨1⟩, .empty, 1, 1⟩
    let target : Bitmap := ⟨.empty, ⟨2⟩, 1, 1⟩
    let reply := drawWith .standard created.engine target source ⟨0, 0, 1, 1⟩ ⟨0, 0, 1, 1⟩
    let pixel (engine : Engine) (resource : Resource) :=
      (engine.picture? resource).map (fun picture => picture.pixel 0 0)
    first.result = .ok source ∧ pixel first.engine source.drawn = some ⟨255, 0, 0, 255⟩ ∧
      created.result = .ok target ∧
        pixel created.engine ⟨.surface, 2⟩ = some ⟨0, 0, 0, 0⟩ ∧
          reply.result = true ∧ pixel reply.engine ⟨.surface, 2⟩ = some ⟨0, 255, 0, 255⟩ := by
  decide +kernel

end HostBridge.Bitmap
