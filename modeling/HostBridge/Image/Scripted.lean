import HostBridge.Image.Engine
import HostBridge.Text.Utf8

/-!
# Scripted image engines

An engine that records its calls and answers from queues.  With an empty queue it decodes to images
of 4 by 3 pixels, creates any surface, draws whatever it is asked to and encodes an address to its
text.
-/

namespace HostBridge

/-- An engine with its queued answers. -/
structure ScriptedImages where
  decodeAnswers : List (Except EngineError DecodedImage)
  surfaceAnswers : List (Except EngineError UInt64)
  drawAnswers : List (Except EngineError Unit)
  encodeAnswers : List (Except EngineError (List UInt8))
  /-- The next address that is given without a queued answer. -/
  next : UInt64

namespace ScriptedImages

/-- An engine without queued answers. -/
def new : ScriptedImages := ⟨[], [], [], [], 0x10⟩

/-- Record a call. -/
def saw {α : Type} (engine : ScriptedImages) (call : ImageCall) (result : α) :
    EngineReply ScriptedImages α :=
  ⟨engine, result, [call], []⟩

/-- The text of an address behind a letter. -/
def addressText (letter : String) (address : UInt64) : List UInt8 :=
  Text.encodeUtf8 (letter ++ toString address.toNat)

/-- Answer a call to encode. -/
def encode (engine : ScriptedImages) (call : ImageCall) (plain : List UInt8) :
    EngineReply ScriptedImages (Except EngineError Encoded) :=
  match engine.encodeAnswers with
  | [] => engine.saw call (.ok (.bytes plain))
  | answer :: rest => { engine with encodeAnswers := rest }.saw call (answer.map .bytes)

instance : ImageEngine ScriptedImages where
  decode engine bytes :=
    match engine.decodeAnswers with
    | [] => { engine with next := engine.next + 1 }.saw (.decode bytes) (.ok ⟨engine.next, 4, 3⟩)
    | answer :: rest => { engine with decodeAnswers := rest }.saw (.decode bytes) answer
  createSurface engine width height :=
    match engine.surfaceAnswers with
    | [] => { engine with next := engine.next + 1 }.saw (.surface width height) (.ok engine.next)
    | answer :: rest => { engine with surfaceAnswers := rest }.saw (.surface width height) answer
  draw engine image surface source target :=
    match engine.drawAnswers with
    | [] => engine.saw (.draw image surface source target) (.ok ())
    | answer :: rest =>
      { engine with drawAnswers := rest }.saw (.draw image surface source target) answer
  encodeSurface engine address format quality :=
    engine.encode (.encodeSurface address format quality) (addressText "S" address)
  encodeImage engine address format quality :=
    engine.encode (.encodeImage address format quality) (addressText "I" address)
  releaseImage engine address := engine.saw (.releaseImage address) ()
  releaseSurface engine address := engine.saw (.releaseSurface address) ()

end ScriptedImages

end HostBridge
