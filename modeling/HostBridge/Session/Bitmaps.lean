import HostBridge.Session.State

/-!
# Bitmaps in a session

The actions on bitmaps, and the calls of the raster engine itself.
-/

namespace HostBridge.Session

/-- The image engine of a session that has one. -/
inductive ImageBackend where
  | scripted (engine : ScriptedImages)
  | raster (engine : Raster.Engine)

namespace ImageBackend

/-- Carry out a call with whichever engine there is. -/
def call {α : Type} (backend : ImageBackend)
    (run : {ε : Type} → [ImageEngine ε] → ε → EngineReply ε α) : EngineReply ImageBackend α :=
  match backend with
  | scripted engine =>
    let reply := run engine
    ⟨scripted reply.engine, reply.result, reply.calls, reply.log⟩
  | raster engine =>
    let reply := run engine
    ⟨raster reply.engine, reply.result, reply.calls, reply.log⟩

instance : ImageEngine ImageBackend where
  decode backend bytes := backend.call (ImageEngine.decode · bytes)
  createSurface backend width height := backend.call (ImageEngine.createSurface · width height)
  draw backend image surface source target :=
    backend.call (ImageEngine.draw · image surface source target)
  encodeSurface backend surface format quality :=
    backend.call (ImageEngine.encodeSurface · surface format quality)
  encodeImage backend image format quality :=
    backend.call (ImageEngine.encodeImage · image format quality)
  releaseImage backend image := backend.call (ImageEngine.releaseImage · image)
  releaseSurface backend surface := backend.call (ImageEngine.releaseSurface · surface)

/-- The engine of a session. -/
def ofImages? : Images → Option ImageBackend
  | .none => none
  | .scripted engine => some (.scripted engine)
  | .raster engine => some (.raster engine)

/-- The engine as part of a session. -/
def toImages : ImageBackend → Images
  | scripted engine => .scripted engine
  | raster engine => .raster engine

end ImageBackend

namespace State

/-- Carry out a call of the image engine. -/
def withEngine {α : Type} (state : State) (backend : ImageBackend)
    (run : ImageBackend → EngineReply ImageBackend α) : State × α :=
  let reply := run backend
  (({ state with images := reply.engine.toImages }.saw (reply.calls.map .image)).note reply.log,
    reply.result)

/-- Release what a bitmap owns. -/
def releaseBitmap (state : State) (bitmap : Bitmap) : State × Bitmap :=
  match ImageBackend.ofImages? state.images with
  | none => (state, bitmap)
  | some backend => state.withEngine backend (Bitmap.release · bitmap)

/-- Hold a new bitmap under a name; one that had the name is released. -/
def holdBitmap (state : State) (name : String) (bitmap : Bitmap) : State :=
  let previous := state.bitmaps.find? name
  let state := { state with bitmaps := state.bitmaps.insert name bitmap }
  match previous with
  | none => state
  | some old => (state.releaseBitmap old).1

/-- Make a bitmap with the image engine and hold it. -/
def makeBitmap (state : State) (name : String)
    (make : ImageBackend → EngineReply ImageBackend (Except BridgeError Bitmap)) : State × Reply :=
  match state.context.require .image, ImageBackend.ofImages? state.images with
  | .error error, _ => (state, .failed error)
  | .ok (), none => (state, .nothing)
  | .ok (), some backend =>
    match state.withEngine backend make with
    | (state, .error error) => (state, .failed error)
    | (state, .ok bitmap) => (state.holdBitmap name bitmap, .bitmap bitmap)

/-- Decode a bitmap. -/
def decodeBitmap (state : State) (name : String) : ImageSource → State × Reply
  | .data bytes => state.makeBitmap name (Bitmap.decode · bytes)
  | .range bytes offset length => state.makeBitmap name (Bitmap.decodeRange · bytes offset length)
  | .reader chunks failure => state.makeBitmap name (Bitmap.decodeReader · chunks failure)

/-- The answer for a name that no bitmap has. -/
def noBitmap : Reply := .text "no bitmap"

/-- Draw one bitmap onto another. -/
def draw (state : State) (target source : String) (part place : Rect)
    (answer : Bitmap → Bool → Reply) : State × Reply :=
  match state.bitmaps.find? target, state.bitmaps.find? source with
  | none, _ => (state, noBitmap)
  | some _, none => (state, .text "no source")
  | some target, some source =>
    match ImageBackend.ofImages? state.images with
    | none => (state, answer target false)
    | some backend =>
      let (state, drawn) := state.withEngine backend (Bitmap.draw · target source part place)
      (state, answer target drawn)

/-- Compress a bitmap. -/
def compress (state : State) (name : String) (format : ImageFormat) (quality : Int)
    (answer : Except BridgeError Encoded → Reply) : State × Reply :=
  match state.bitmaps.find? name, ImageBackend.ofImages? state.images with
  | some bitmap, some backend =>
    let (state, result) := state.withEngine backend (Bitmap.compress · bitmap format quality)
    (state, answer result)
  | _, _ => (state, noBitmap)

/-- The answer of a compression. -/
def encodedReply : Except BridgeError Encoded → Reply
  | .ok encoded => .encoded encoded
  | .error error => .failed error

/-- The answer of a compression into a writer. -/
def writtenReply (room : Option Nat) (failure : Option String) :
    Except BridgeError Encoded → Reply
  | .error error => .written (.error error) []
  | .ok (.bytes bytes) =>
    let (sink, result) := writeInto room failure bytes
    .written result sink
  | .ok (.file _ picture) =>
    let (sink, result) := writeInto room failure picture.bytes
    .written result sink

/-- Release a bitmap that stays held. -/
def release (state : State) (name : String) : State × Reply :=
  match state.bitmaps.find? name with
  | none => (state, noBitmap)
  | some bitmap =>
    let (state, released) := state.releaseBitmap bitmap
    ({ state with bitmaps := state.bitmaps.insert name released }, .nothing)

/-- Let go of a bitmap. -/
def dropBitmap (state : State) (name : String) : State × Reply :=
  match state.bitmaps.find? name with
  | none => (state, .flag false)
  | some bitmap =>
    let (state, _) := state.releaseBitmap bitmap
    ({ state with bitmaps := state.bitmaps.erase name }, .flag true)

/-- The answer of an engine. -/
def engineReply {α : Type} (answer : α → Reply) : Except EngineError α → Reply
  | .ok a => answer a
  | .error error => .engineFailed error

/-- Call the raster engine itself. -/
def callRaster (state : State) (call : RasterCall) : State × Reply :=
  match state.images with
  | .raster engine =>
    let backend := ImageBackend.raster engine
    match call with
    | .decode data =>
      let (state, result) := state.withEngine backend (ImageEngine.decode · data)
      (state, engineReply .decoded result)
    | .create width height =>
      let (state, result) := state.withEngine backend (ImageEngine.createSurface · width height)
      (state, engineReply (fun address => .count address.toNat) result)
    | .draw image surface source target =>
      let (state, result) :=
        state.withEngine backend (ImageEngine.draw · image surface source target)
      (state, engineReply (fun () => .text "ok") result)
    | .encodeSurface surface format quality =>
      let (state, result) :=
        state.withEngine backend (ImageEngine.encodeSurface · surface format quality)
      (state, engineReply .encoded result)
    | .encodeImage image format quality =>
      let (state, result) :=
        state.withEngine backend (ImageEngine.encodeImage · image format quality)
      (state, engineReply .encoded result)
    | .releaseImage image =>
      let (state, ()) := state.withEngine backend (ImageEngine.releaseImage · image)
      (state, .nothing)
    | .releaseSurface surface =>
      let (state, ()) := state.withEngine backend (ImageEngine.releaseSurface · surface)
      (state, .nothing)
    | .live => (state, .live engine.liveImages engine.liveSurfaces)
  | _ => (state, .text "no raster")

/-- Queue answers of a scripted image engine. -/
def scriptImages (state : State) (script : ImageScript) : State :=
  match state.images with
  | .scripted engine =>
    let engine := match script with
      | .decode answers => { engine with decodeAnswers := engine.decodeAnswers ++ answers }
      | .surface answers => { engine with surfaceAnswers := engine.surfaceAnswers ++ answers }
      | .draw answers => { engine with drawAnswers := engine.drawAnswers ++ answers }
      | .encode answers => { engine with encodeAnswers := engine.encodeAnswers ++ answers }
    { state with images := .scripted engine }
  | _ => state

end State

end HostBridge.Session
