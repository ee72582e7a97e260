import HostBridge.Channel
import HostBridge.Context
import HostBridge.Image.Bitmap

/-!
# Session actions

What an application may do in a session with a bridge whose collaborators are scripted, what it is
answered, and what the collaborators and the application's own code see.  Reactions are lists of
actions, so code that runs inside of an operation may itself use the bridge.
-/

namespace HostBridge.Session

/-- Queued answers of a scripted image engine. -/
inductive ImageScript where
  | decode (answers : List (Except EngineError DecodedImage))
  | surface (answers : List (Except EngineError UInt64))
  | draw (answers : List (Except EngineError Unit))
  | encode (answers : List (Except EngineError Bytes))

/-- A call of the raster engine itself. -/
inductive RasterCall where
  | decode (data : Bytes)
  | create (width height : UInt32)
  | draw (image surface : UInt64) (source target : Rect)
  | encodeSurface (surface : UInt64) (format : ImageFormat) (quality : Nat)
  | encodeImage (image : UInt64) (format : ImageFormat) (quality : Nat)
  | releaseImage (image : UInt64)
  | releaseSurface (surface : UInt64)
  | live

/-- Where the data of an image comes from. -/
inductive ImageSource where
  | data (bytes : Bytes)
  | range (bytes : Bytes) (offset length : Nat)
  | reader (chunks : List Bytes) (failure : Option String)

/-- Where an inbound event goes: to a view by its name, or else to an id. -/
structure Addressee where
  view : Option String
  id : UInt64

/-- An action of the application, or a change of what its collaborators will do. -/
inductive Action where
  | webAddresses (answers : List (Except EngineError UInt64))
  | webFail (error : Option EngineError)
  | onRelease (steps : List Action)
  | imageScript (script : ImageScript)
  | netReply (segments : List Bytes)
  | jarPut (url value : String)
  | jarFail (error : Option EngineError)
  | deliver (addressee : Addressee) (method payload : String)
  | counts
  | shown
  | subscribe (stream : String) (filters : List EventFilter)
  | drain (stream : String)
  | createView (view : String)
  | dropView (view : String)
  | loadUrl (view url : String) (headers : Option (List (String × String)))
  | loadData (view data : String) (baseUrl mimeType encoding historyUrl : Option String)
  | run (view script : String)
  | evaluate (view script name : String) (steps : List Action) (ending : Ending)
  | evaluateLater (view script slot : String)
  | poll (slot : String)
  | addInterface (view name : String) (target : ScriptTarget Action)
  | removeInterface (view name : String)
  | hasInterface (view name : String)
  | setClient (view : String) (client : Client Action)
  | clearClient (view : String)
  | destroy (view : String)
  | viewInfo (view : String)
  | decode (bitmap : String) (source : ImageSource)
  | createBitmap (bitmap : String) (width height : UInt32)
  | bitmapInfo (bitmap : String)
  | draw (bitmap source : String) (part place : Rect)
  | canvasDraw (bitmap source : String) (part place : Rect)
  | compress (bitmap : String) (format : ImageFormat) (quality : Int)
  | compressTo (bitmap : String) (format : ImageFormat) (quality : Int) (room : Option Nat)
      (failure : Option String)
  | release (bitmap : String)
  | dropBitmap (bitmap : String)
  | raster (call : RasterCall)
  | net (request : NetRequest) (lookups : Option (List String))
  | cookieSet (url value : String)
  | cookieGet (url : String)
  | cookieInfo
  | cookieDisabled (url : String)
  | post (message : HostMessage)
  | channelInfo

/-- What a slot for a result holds. -/
inductive Slot where
  | waiting
  | filled (result : Option String)
  /-- The continuation is gone, or the result was taken. -/
  | closed
deriving DecidableEq, Repr

/-- What an action answers. -/
inductive Reply where
  | nothing
  | flag (b : Bool)
  | count (n : Nat)
  | text (s : String)
  | cookie (value : Option String)
  | failed (error : BridgeError)
  | engineFailed (error : EngineError)
  | counts (live pending : Nat)
  | items (items : List StreamItem)
  | delivery (delivery : Delivery)
  | slot (slot : Option Slot)
  | view (objectId : UInt64) (destroyed : Bool) (shown : String)
  | bitmap (bitmap : Bitmap)
  | canvas (width height : UInt32) (drawn : Bool)
  | encoded (encoded : Encoded)
  | written (result : Except BridgeError Nat) (sink : Bytes)
  | decoded (image : DecodedImage)
  | live (images surfaces : Nat)
  | response (response : NetResponse) (lookups : Option (List String)) (stats : NetStats)
  | cookieBridge (bridge : CookieBridge)
  | cookieBridgeWith (bridge : CookieBridge) (cookie : Option String)

/-- What a collaborator or the application's code saw. -/
inductive Sighting where
  | webCreate (address : Option UInt64)
  | webInvoke (address : UInt64) (method payload : String)
  | webRelease (address : UInt64)
  | image (call : ImageCall)
  | jarGet (url : String)
  | jarSet (url value : String)
  | posted (message : HostMessage)
  | netCall (request : NetRequest)
  | continued (name : String) (result : Option String)
  | abandoned (name : String)
  | client (name : String) (phase : Phase) (objectId : UInt64) (progress : Option Int32)
  | script (label method : String) (args : List Json)
  | nested (reply : Reply)

end HostBridge.Session
