import HostBridge.Proofs.Image.Likeness
import HostBridge.Proofs.Table
import HostBridge.Raster.Engine

/-!
# Bitmaps over a watched engine

A raster engine, with any codec, whose calls are written down together with their answers, and what
each operation on a bitmap comes to at such an engine: something is made, something is given back,
or all stays as it was.  Writing the calls down changes nothing (`Watched.shows_engine`).
-/

namespace HostBridge

namespace Raster

/-- What an engine holds. -/
inductive Kind where
  | image
  | surface
deriving DecidableEq, Repr

structure Resource where
  kind : Kind
  address : UInt64
deriving DecidableEq, Repr

/-- A call of an engine, with its answer as far as addresses go. -/
inductive Deed where
  | make (kind : Kind) (result : Except EngineError UInt64)
  | use (result : Except EngineError Unit)
  | release (resource : Resource)

namespace Deed

/-- What a call made. -/
def made? : Deed → Option Resource
  | .make kind (.ok address) => some ⟨kind, address⟩
  | _ => none

/-- What a call gave back. -/
def freed? : Deed → Option Resource
  | .release resource => some resource
  | _ => none

/-- Whether the answer was that an address is unknown. -/
def isUnknown : Deed → Bool
  | .make _ (.error (.unknownHandle _)) => true
  | .use (.error (.unknownHandle _)) => true
  | _ => false

end Deed

def Engine.table (engine : Engine) : Kind → Table UInt64 Picture
  | .image => engine.images
  | .surface => engine.surfaces

/-- A raster engine with a codec, and the calls that were made of it. -/
structure Watched (load : List UInt8 → Except String Picture) where
  engine : Engine
  deeds : List Deed

namespace Watched

variable {load : List UInt8 → Except String Picture}

def new : Watched load := ⟨.new, []⟩

/-- Write a call down. -/
def note {α : Type} (watched : Watched load) (reply : EngineReply Engine α) (deed : α → Deed) :
    EngineReply (Watched load) α :=
  ⟨⟨reply.engine, watched.deeds ++ [deed reply.result]⟩, reply.result, reply.calls, reply.log⟩

instance : ImageEngine (Watched load) where
  decode watched bytes :=
    watched.note (watched.engine.decodeWith load bytes)
      (fun result => .make .image (result.map DecodedImage.address))
  createSurface watched width height :=
    watched.note (watched.engine.createSurface width height) (.make .surface)
  draw watched image surface source target :=
    watched.note (watched.engine.draw image surface source target) .use
  encodeSurface watched surface format _ :=
    watched.note (watched.engine.encodeSurface surface format)
      (fun result => .use (result.map (fun _ => ())))
  encodeImage watched image format _ :=
    watched.note (watched.engine.encodeImage image format)
      (fun result => .use (result.map (fun _ => ())))
  releaseImage watched image :=
    watched.note (watched.engine.releaseImage image) (fun _ => .release ⟨.image, image⟩)
  releaseSurface watched surface :=
    watched.note (watched.engine.releaseSurface surface) (fun _ => .release ⟨.surface, surface⟩)

/-- An engine with its own codec answers whoever watches it. -/
theorem shows_engine : ImageEngine.Shows (engine : Watched Netpbm.load → Engine) where
  decode _ _ := rfl
  createSurface _ _ _ := rfl
  draw _ _ _ _ _ := rfl
  encodeSurface _ _ _ _ := rfl
  encodeImage _ _ _ _ := rfl
  releaseImage _ _ := rfl
  releaseSurface _ _ := rfl

/-- What was made, in order. -/
def made (watched : Watched load) : List Resource := watched.deeds.filterMap Deed.made?

/-- What was given back, in order. -/
def freed (watched : Watched load) : List Resource := watched.deeds.filterMap Deed.freed?

/-- The addresses of a kind that are known. -/
def keys (watched : Watched load) (kind : Kind) : List UInt64 := (watched.engine.table kind).keys

/-- Nothing was made or given back, and nothing was asked for in vain. -/
structure Keeps (before after : Watched load) : Prop where
  keys : ∀ kind, after.keys kind = before.keys kind
  next : after.engine.next = before.engine.next
  deeds : ∃ quiet : List Deed, after.deeds = before.deeds ++ quiet ∧
    ∀ deed ∈ quiet, deed.made? = none ∧ deed.freed? = none ∧ deed.isUnknown = false

/-- A resource was made at the next address. -/
structure Makes (before : Watched load) (kind : Kind) (after : Watched load) : Prop where
  keys : ∀ other, after.keys other =
    if other = kind then before.keys other ++ [before.engine.next] else before.keys other
  next : after.engine.next = before.engine.next + 1
  deeds : after.deeds = before.deeds ++ [.make kind (.ok before.engine.next)]

structure Frees (before : Watched load) (resource : Resource) (after : Watched load) : Prop where
  keys : ∀ other, after.keys other =
    if other = resource.kind then
      (before.keys other).filter (fun key => !decide (key = resource.address))
    else before.keys other
  next : after.engine.next = before.engine.next
  deeds : after.deeds = before.deeds ++ [.release resource]

/-- The next address is none that is known, and not the address of nothing. -/
structure Ready (watched : Watched load) : Prop where
  solid : watched.engine.next ≠ 0
  fresh : ∀ kind, watched.engine.next ∉ watched.keys kind

variable {watched : Watched load}

theorem Keeps.refl (watched : Watched load) : watched.Keeps watched :=
  ⟨fun _ => rfl, rfl, [], (List.append_nil _).symm, nofun⟩

/-- A call that makes nothing, frees nothing and knows its handles keeps what is there. -/
theorem keeps_note {α : Type} {reply : EngineReply Engine α} {deed : α → Deed}
    (keys : ∀ kind, (reply.engine.table kind).keys = watched.keys kind)
    (next : reply.engine.next = watched.engine.next)
    (unmade : (deed reply.result).made? = none) (unfreed : (deed reply.result).freed? = none)
    (known : (deed reply.result).isUnknown = false) :
    watched.Keeps (watched.note reply deed).engine := by
  refine ⟨keys, next, [deed reply.result], rfl, ?_⟩
  intro other listed
  rw [List.mem_singleton.mp listed]
  exact ⟨unmade, unfreed, known⟩

/-- The next address is not taken in either table. -/
theorem Ready.absent (ready : watched.Ready) (kind : Kind) :
    (watched.engine.table kind).find? watched.engine.next = none :=
  (Table.find?_eq_none_iff _ _).mpr (ready.fresh kind)

/-- Either a call fails and all stays as it was, or it makes a resource. -/
def Tries {κ α : Type} (watched : Watched load) (kind : Kind) (fits : α → Prop)
    (reply : EngineReply (Watched load) (Except κ α)) : Prop :=
  (∃ error, reply.result = .error error ∧ watched.Keeps reply.engine) ∨
    ∃ value, reply.result = .ok value ∧ fits value ∧ watched.Makes kind reply.engine

/-- A decoded image is put under the next address. -/
theorem tries_decode (ready : watched.Ready) (bytes : List UInt8) :
    watched.Tries .image (fun image => image.address = watched.engine.next)
      (ImageEngine.decode watched bytes) := by
  change watched.Tries .image _ (watched.note (watched.engine.decodeWith load bytes) _)
  unfold Engine.decodeWith
  cases load bytes with
  | error why => exact .inl ⟨_, rfl, keeps_note (fun _ => rfl) rfl rfl rfl rfl⟩
  | ok picture =>
      refine .inr ⟨_, rfl, rfl, ?_, rfl, rfl⟩
      intro other
      cases other with
      | image => exact Table.keys_insert_of_absent _ _ (ready.absent .image)
      | surface => rfl

/-- A new surface is put under the next address. -/
theorem tries_createSurface (ready : watched.Ready) (width height : UInt32) :
    watched.Tries .surface (fun address => address = watched.engine.next)
      (ImageEngine.createSurface watched width height) := by
  change watched.Tries .surface _ (watched.note (watched.engine.createSurface width height) _)
  unfold Engine.createSurface
  split
  · exact .inl ⟨_, rfl, keeps_note (fun _ => rfl) rfl rfl rfl rfl⟩
  · refine .inr ⟨_, rfl, rfl, ?_, rfl, rfl⟩
    intro other
    cases other with
    | image => rfl
    | surface => exact Table.keys_insert_of_absent _ _ (ready.absent .surface)

/-- What is known is there. -/
theorem exists_of_mem_keys {kind : Kind} {address : UInt64} (known : address ∈ watched.keys kind) :
    ∃ picture, (watched.engine.table kind).find? address = some picture :=
  Option.isSome_iff_exists.mp ((Table.mem_keys_iff _ _).mp known)

/-- Drawing a known image onto a known surface keeps what is there. -/
theorem keeps_draw {image surface : UInt64} (drawn : image ∈ watched.keys .image)
    (onto : surface ∈ watched.keys .surface) (source target : Rect) :
    watched.Keeps (ImageEngine.draw watched image surface source target).engine := by
  obtain ⟨picture, found⟩ := exists_of_mem_keys drawn
  obtain ⟨old, present⟩ := exists_of_mem_keys onto
  change watched.Keeps (watched.note (watched.engine.draw image surface source target) _).engine
  unfold Engine.draw Engine.drawWith
  rw [show watched.engine.images.find? image = some picture from found]
  dsimp only
  unfold Engine.drawPicture
  dsimp only
  split
  · exact keeps_note (fun _ => rfl) rfl rfl rfl rfl
  · rw [show watched.engine.surfaces.find? surface = some old from present]
    dsimp only
    split
    · exact keeps_note (fun _ => rfl) rfl rfl rfl rfl
    · refine keeps_note ?_ rfl rfl rfl rfl
      intro kind
      cases kind with
      | image => rfl
      | surface => exact Table.keys_insert_of_present _ _ present

/-- Encoding does not complain of an unknown handle. -/
theorem isUnknown_encode (tools : Tools) (engine : Engine) (picture : Picture)
    (format : ImageFormat) :
    (Deed.use ((engine.encodeWith tools picture format).result.map
      (fun _ => ()))).isUnknown = false := by
  unfold Engine.encodeWith
  dsimp only [Engine.reply]
  split <;> rfl

/-- Encoding a known surface keeps what is there. -/
theorem keeps_encodeSurface {surface : UInt64} (known : surface ∈ watched.keys .surface)
    (format : ImageFormat) (quality : Nat) :
    watched.Keeps (ImageEngine.encodeSurface watched surface format quality).engine := by
  obtain ⟨picture, found⟩ := exists_of_mem_keys known
  change watched.Keeps (watched.note (watched.engine.encodeSurface surface format) _).engine
  rw [Engine.encodeSurface, Engine.encodeSurfaceWith,
    show watched.engine.surfaces.find? surface = some picture from found]
  exact keeps_note (fun _ => rfl) rfl rfl rfl (isUnknown_encode _ _ _ _)

theorem keeps_encodeImage {image : UInt64} (known : image ∈ watched.keys .image)
    (format : ImageFormat) (quality : Nat) :
    watched.Keeps (ImageEngine.encodeImage watched image format quality).engine := by
  obtain ⟨picture, found⟩ := exists_of_mem_keys known
  change watched.Keeps (watched.note (watched.engine.encodeImage image format) _).engine
  rw [Engine.encodeImage, Engine.encodeImageWith,
    show watched.engine.images.find? image = some picture from found]
  exact keeps_note (fun _ => rfl) rfl rfl rfl (isUnknown_encode _ _ _ _)

/-- Releasing an image frees it, if it was there, and nothing else. -/
theorem frees_releaseImage (watched : Watched load) (image : UInt64) :
    watched.Frees ⟨.image, image⟩ (ImageEngine.releaseImage watched image).engine := by
  refine ⟨?_, rfl, rfl⟩
  intro kind
  cases kind with
  | image => exact Table.keys_erase _ _
  | surface => rfl

theorem frees_releaseSurface (watched : Watched load) (surface : UInt64) :
    watched.Frees ⟨.surface, surface⟩ (ImageEngine.releaseSurface watched surface).engine := by
  refine ⟨?_, rfl, rfl⟩
  intro kind
  cases kind with
  | image => rfl
  | surface => exact Table.keys_erase _ _

end Watched

end Raster

/-- A handle that holds an address hands it out and is empty. -/
theorem Handle.release_of_ne {address : UInt64} (solid : address ≠ 0) :
    Handle.release ⟨address⟩ = (.empty, some address) :=
  congrArg (Prod.mk Handle.empty) (if_neg solid)

namespace Bitmap

open Raster (Kind Resource Watched)

variable {load : List UInt8 → Except String Raster.Picture} {watched : Watched load}
  {bitmap : Bitmap}

/-- The handle for a kind of resource. -/
def handle (bitmap : Bitmap) : Kind → Handle
  | .image => bitmap.image
  | .surface => bitmap.surface

/-- A bitmap has one resource and no other. -/
structure Holds (bitmap : Bitmap) (resource : Resource) : Prop where
  solid : resource.address ≠ 0
  handle : ∀ kind, bitmap.handle kind =
    if kind = resource.kind then ⟨resource.address⟩ else Handle.empty

def emptied (bitmap : Bitmap) : Bitmap := { bitmap with image := .empty, surface := .empty }

/-- The engine knows what a bitmap has. -/
def IsKnown (bitmap : Bitmap) (watched : Watched load) : Prop :=
  ∀ kind, (bitmap.handle kind).isReleased = false →
    (bitmap.handle kind).address ∈ watched.keys kind

/-- What was done before stays on record through a decoding. -/
theorem extends_decode (watched : Watched load) (bytes : List UInt8) :
    watched.deeds <+: (decode watched bytes).engine.deeds := by
  have asked : watched.deeds <+: (ImageEngine.decode watched bytes).engine.deeds :=
    List.prefix_append _ _
  unfold decode
  split
  · exact List.prefix_rfl
  · dsimp only
    split
    · exact asked
    · split <;> exact asked

theorem extends_decodeRange (watched : Watched load) (data : List UInt8) (offset length : Nat) :
    watched.deeds <+: (decodeRange watched data offset length).engine.deeds := by
  unfold decodeRange
  split
  · exact extends_decode _ _
  · exact List.prefix_rfl

theorem extends_decodeReader (watched : Watched load) (chunks : List (List UInt8))
    (failure : Option String) :
    watched.deeds <+: (decodeReader watched chunks failure).engine.deeds := by
  cases failure with
  | none => exact extends_decode _ _
  | some why => exact List.prefix_rfl

theorem extends_create (watched : Watched load) (width height : UInt32) :
    watched.deeds <+: (create watched width height).engine.deeds := by
  have asked : watched.deeds <+: (ImageEngine.createSurface watched width height).engine.deeds :=
    List.prefix_append _ _
  unfold create
  split
  · exact List.prefix_rfl
  · dsimp only
    split
    · exact asked
    · split <;> exact asked

theorem extends_draw (watched : Watched load) (target source : Bitmap) (part place : Rect) :
    watched.deeds <+: (draw watched target source part place).engine.deeds := by
  unfold draw
  split
  · exact List.prefix_rfl
  · dsimp only
    split
    · exact List.prefix_rfl
    · split <;> exact List.prefix_append _ _

theorem extends_compress (watched : Watched load) (bitmap : Bitmap) (format : ImageFormat)
    (quality : Int) : watched.deeds <+: (compress watched bitmap format quality).engine.deeds := by
  unfold compress
  split
  · exact List.prefix_rfl
  · split
    · exact List.prefix_append _ _
    · split
      · exact List.prefix_append _ _
      · exact List.prefix_rfl

theorem extends_release (watched : Watched load) (bitmap : Bitmap) :
    watched.deeds <+: (release watched bitmap).engine.deeds := by
  unfold release
  dsimp only
  split
  · split
    · exact List.prefix_rfl
    · exact List.prefix_append _ _
  · split
    · exact List.prefix_append _ _
    · exact (List.prefix_append _ _).trans (List.prefix_append _ _)

theorem tries_decode (ready : watched.Ready) (bytes : List UInt8) :
    watched.Tries .image (fun bitmap => bitmap.Holds ⟨.image, watched.engine.next⟩)
      (decode watched bytes) := by
  unfold decode
  split
  · exact .inl ⟨_, rfl, .refl watched⟩
  · obtain ⟨error, failed, keeps⟩ | ⟨image, found, issued, makes⟩ :=
      watched.tries_decode ready bytes
    · dsimp only
      rw [failed]
      exact .inl ⟨_, rfl, keeps⟩
    · have solid : image.address ≠ 0 := fun none => ready.solid (issued.symm.trans none)
      dsimp only
      rw [found]
      dsimp only
      rw [if_neg solid]
      refine .inr ⟨_, rfl, ⟨ready.solid, ?_⟩, makes⟩
      intro kind
      cases kind with
      | image => exact congrArg Handle.mk issued
      | surface => rfl

/-- A bitmap that is decoded from a part of its data holds the next address. -/
theorem tries_decodeRange (ready : watched.Ready) (data : List UInt8) (offset length : Nat) :
    watched.Tries .image (fun bitmap => bitmap.Holds ⟨.image, watched.engine.next⟩)
      (decodeRange watched data offset length) := by
  unfold decodeRange
  split
  · exact tries_decode ready _
  · exact .inl ⟨_, rfl, .refl watched⟩

/-- A bitmap that is read and decoded holds the next address. -/
theorem tries_decodeReader (ready : watched.Ready) (chunks : List (List UInt8))
    (failure : Option String) :
    watched.Tries .image (fun bitmap => bitmap.Holds ⟨.image, watched.engine.next⟩)
      (decodeReader watched chunks failure) := by
  cases failure with
  | none => exact tries_decode ready _
  | some why => exact .inl ⟨_, rfl, .refl watched⟩

/-- A new bitmap holds the next address. -/
theorem tries_create (ready : watched.Ready) (width height : UInt32) :
    watched.Tries .surface (fun bitmap => bitmap.Holds ⟨.surface, watched.engine.next⟩)
      (create watched width height) := by
  unfold create
  split
  · exact .inl ⟨_, rfl, .refl watched⟩
  · obtain ⟨error, failed, keeps⟩ | ⟨address, found, issued, makes⟩ :=
      watched.tries_createSurface ready width height
    · dsimp only
      rw [failed]
      exact .inl ⟨_, rfl, keeps⟩
    · have solid : address ≠ 0 := fun none => ready.solid (issued.symm.trans none)
      dsimp only
      rw [found]
      dsimp only
      rw [if_neg solid]
      refine .inr ⟨_, rfl, ⟨ready.solid, ?_⟩, makes⟩
      intro kind
      cases kind with
      | image => rfl
      | surface => exact congrArg Handle.mk issued

theorem keeps_draw {target source : Bitmap} (onto : target.IsKnown watched)
    (drawn : source.IsKnown watched) (part place : Rect) :
    watched.Keeps (draw watched target source part place).engine := by
  unfold draw
  split
  · exact .refl watched
  next live =>
    dsimp only
    split
    · exact .refl watched
    next solid =>
      have keeps := watched.keeps_draw (drawn .image ((Bool.not_eq_true _).mp solid))
        (onto .surface ((Bool.not_eq_true _).mp live)) part place
      split <;> exact keeps

/-- Compressing a bitmap that the engine knows keeps what is there. -/
theorem keeps_compress (known : bitmap.IsKnown watched) (format : ImageFormat) (quality : Int) :
    watched.Keeps (compress watched bitmap format quality).engine := by
  unfold compress
  split
  · exact .refl watched
  next quality _ =>
    split
    next live =>
      have present := known .surface ((Bool.not_eq_true' _).mp live)
      exact watched.keeps_encodeSurface present format quality
    · split
      next live =>
        have present := known .image ((Bool.not_eq_true' _).mp live)
        exact watched.keeps_encodeImage present format quality
      · exact .refl watched

/-- Releasing a bitmap frees what it holds and leaves it empty. -/
theorem release_of_holds (watched : Watched load) {resource : Resource}
    (holds : bitmap.Holds resource) :
    watched.Frees resource (release watched bitmap).engine ∧
      (release watched bitmap).result = bitmap.emptied := by
  obtain ⟨image, surface, width, height⟩ := bitmap
  obtain ⟨kind, address⟩ := resource
  obtain ⟨solid, handle⟩ := holds
  obtain rfl : image = _ := handle .image
  obtain rfl : surface = _ := handle .surface
  cases kind with
  | image =>
      unfold release
      rw [if_pos rfl, if_neg nofun, Handle.release_of_ne solid]
      exact ⟨watched.frees_releaseImage address, rfl⟩
  | surface =>
      unfold release
      rw [if_pos rfl, if_neg nofun, Handle.release_of_ne solid]
      exact ⟨watched.frees_releaseSurface address, rfl⟩

/-- An empty bitmap has nothing to release. -/
theorem release_emptied (watched : Watched load) (bitmap : Bitmap) :
    (release watched bitmap.emptied).engine = watched ∧
      (release watched bitmap.emptied).result = bitmap.emptied := ⟨rfl, rfl⟩

end Bitmap

end HostBridge
