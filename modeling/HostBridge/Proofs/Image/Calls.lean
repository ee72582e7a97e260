import HostBridge.Proofs.Image.Recording

/-!
# Calls of an image engine

The calls of an image engine as data, what they ask for, and what they come to as far as addresses
go.
-/

namespace HostBridge

open Raster (Kind Resource Deed)

/-- An answer, told in another way. -/
def EngineReply.map {ε α β : Type} (f : α → β) (reply : EngineReply ε α) : EngineReply ε β :=
  ⟨reply.engine, f reply.result, reply.calls, reply.log⟩

/-- The error that a call was answered with. -/
def Raster.Deed.error? : Deed → Option EngineError
  | .make _ (.error error) => some error
  | .use (.error error) => some error
  | _ => none

namespace ImageCall

/-- The resources that a call asks for. -/
def names : ImageCall → List Resource
  | .decode _ => []
  | .surface _ _ => []
  | .draw drawn onto _ _ => [⟨.image, drawn⟩, ⟨.surface, onto⟩]
  | .encodeSurface address _ _ => [⟨.surface, address⟩]
  | .encodeImage address _ _ => [⟨.image, address⟩]
  | .releaseImage address => [⟨.image, address⟩]
  | .releaseSurface address => [⟨.surface, address⟩]

/-- The call that gives a resource back. -/
def release : Resource → ImageCall
  | ⟨.image, address⟩ => .releaseImage address
  | ⟨.surface, address⟩ => .releaseSurface address

end ImageCall

namespace ImageEngine

variable {ε : Type} [ImageEngine ε]

/-- Make a call. -/
def perform (engine : ε) : ImageCall → EngineReply ε Deed
  | .decode bytes =>
    (decode engine bytes).map (fun result => .make .image (result.map DecodedImage.address))
  | .surface width height => (createSurface engine width height).map (.make .surface)
  | .draw image surface source target => (draw engine image surface source target).map .use
  | .encodeSurface address format quality =>
    (encodeSurface engine address format quality).map
      (fun result => .use (result.map (fun _ => ())))
  | .encodeImage address format quality =>
    (encodeImage engine address format quality).map
      (fun result => .use (result.map (fun _ => ())))
  | .releaseImage address =>
    (releaseImage engine address).map (fun _ => .release ⟨.image, address⟩)
  | .releaseSurface address =>
    (releaseSurface engine address).map (fun _ => .release ⟨.surface, address⟩)

end ImageEngine

end HostBridge
