import HostBridge.Image.Bitmap

/-!
# One engine seen in another

A part of an image engine that answers the calls of the bridge as the whole engine does is an engine
in its own right, and bitmaps cannot tell the two apart.

Main statement: each operation on a bitmap comes to the same with the part as with the whole
(`mapEngine_decode` and the lemmas beside it).
-/

namespace HostBridge

variable {ε ε' : Type}

/-- An answer with a part of the engine's next state in place of it. -/
def EngineReply.mapEngine {α : Type} (f : ε → ε') (reply : EngineReply ε α) : EngineReply ε' α :=
  ⟨f reply.engine, reply.result, reply.calls, reply.log⟩

variable [ImageEngine ε] [ImageEngine ε']

/-- A part of an engine answers as the engine does. -/
structure ImageEngine.Shows (f : ε → ε') : Prop where
  decode : ∀ engine bytes, (decode engine bytes).mapEngine f = decode (f engine) bytes
  createSurface : ∀ engine width height,
    (createSurface engine width height).mapEngine f = createSurface (f engine) width height
  draw : ∀ engine image surface source target,
    (draw engine image surface source target).mapEngine f =
      draw (f engine) image surface source target
  encodeSurface : ∀ engine surface format quality,
    (encodeSurface engine surface format quality).mapEngine f =
      encodeSurface (f engine) surface format quality
  encodeImage : ∀ engine image format quality,
    (encodeImage engine image format quality).mapEngine f =
      encodeImage (f engine) image format quality
  releaseImage : ∀ engine image,
    (releaseImage engine image).mapEngine f = releaseImage (f engine) image
  releaseSurface : ∀ engine surface,
    (releaseSurface engine surface).mapEngine f = releaseSurface (f engine) surface

namespace Bitmap

variable {f : ε → ε'} (shows : ImageEngine.Shows f) (engine : ε)

include shows

/-- Decoding commutes with a map that keeps what the engine does. -/
theorem mapEngine_decode (bytes : List UInt8) :
    (decode engine bytes).mapEngine f = decode (f engine) bytes := by
  unfold decode
  split
  · rfl
  · rw [← shows.decode]
    dsimp only [EngineReply.mapEngine]
    split
    · rfl
    · split <;> rfl

theorem mapEngine_decodeRange (data : List UInt8) (offset length : Nat) :
    (decodeRange engine data offset length).mapEngine f =
      decodeRange (f engine) data offset length := by
  unfold decodeRange
  split
  · exact mapEngine_decode shows engine _
  · rfl

theorem mapEngine_decodeReader (chunks : List (List UInt8)) (failure : Option String) :
    (decodeReader engine chunks failure).mapEngine f = decodeReader (f engine) chunks failure := by
  cases failure with
  | none => exact mapEngine_decode shows engine _
  | some why => rfl

theorem mapEngine_create (width height : UInt32) :
    (create engine width height).mapEngine f = create (f engine) width height := by
  unfold create
  split
  · rfl
  · rw [← shows.createSurface]
    dsimp only [EngineReply.mapEngine]
    split
    · rfl
    · split <;> rfl

theorem mapEngine_draw (target source : Bitmap) (part place : Rect) :
    (draw engine target source part place).mapEngine f =
      draw (f engine) target source part place := by
  unfold draw
  split
  · rfl
  · dsimp only
    split
    · rfl
    · rw [← shows.draw]
      dsimp only [EngineReply.mapEngine]
      split <;> rfl

theorem mapEngine_compress (bitmap : Bitmap) (format : ImageFormat) (quality : Int) :
    (compress engine bitmap format quality).mapEngine f =
      compress (f engine) bitmap format quality := by
  unfold compress
  split
  · rfl
  · split
    · rw [← shows.encodeSurface]
      rfl
    · split
      · rw [← shows.encodeImage]
        rfl
      · rfl

theorem mapEngine_release (bitmap : Bitmap) :
    (release engine bitmap).mapEngine f = release (f engine) bitmap := by
  unfold release
  dsimp only
  cases bitmap.image.release.2 with
  | none =>
      cases bitmap.surface.release.2 with
      | none => rfl
      | some surface =>
          dsimp only [unasked]
          rw [← shows.releaseSurface]
          rfl
  | some image =>
      dsimp only
      rw [← shows.releaseImage]
      cases bitmap.surface.release.2 with
      | none => rfl
      | some surface =>
          dsimp only [ofReply, EngineReply.mapEngine]
          rw [← shows.releaseSurface]
          rfl

end Bitmap

end HostBridge
