import HostBridge.Proofs.Session.Core
import HostBridge.Session.Bitmaps
import HostBridge.Session.Services
import HostBridge.Session.Views

/-!
# Actions that leave the core of a session alone

Bitmaps, requests, cookies, messages and streams, and what the application binds to a view, are not
part of the core.
-/

namespace HostBridge.Session.State

variable (state : State)

/-! ### Bitmaps -/

/-- What the image engine does leaves the core. -/
@[simp] theorem core_withEngine {α : Type} (backend : ImageBackend)
    (run : ImageBackend → EngineReply ImageBackend α) :
    (state.withEngine backend run).1.core = state.core := by
  apply core_saw_of_unrecorded
  intro sighting member core
  obtain ⟨call, _, rfl⟩ := List.mem_map.mp member
  rfl

@[simp] theorem core_releaseBitmap (bitmap : Bitmap) :
    (state.releaseBitmap bitmap).1.core = state.core := by
  unfold releaseBitmap
  split
  · rfl
  · exact core_withEngine _ _ _

@[simp] theorem core_holdBitmap (name : String) (bitmap : Bitmap) :
    (state.holdBitmap name bitmap).core = state.core := by
  unfold holdBitmap
  dsimp only
  split
  · rfl
  · exact core_releaseBitmap _ _

@[simp] theorem core_makeBitmap (name : String)
    (make : ImageBackend → EngineReply ImageBackend (Except BridgeError Bitmap)) :
    (state.makeBitmap name make).1.core = state.core := by
  unfold makeBitmap
  split
  · rfl
  · rfl
  next backend _ _ =>
    have same := core_withEngine state backend make
    split
    next made => rwa [made] at same
    next made =>
      rw [made] at same
      rw [core_holdBitmap, same]

@[simp] theorem core_decodeBitmap (name : String) (source : ImageSource) :
    (state.decodeBitmap name source).1.core = state.core := by
  cases source with
  | data bytes => exact core_makeBitmap _ _ _
  | range bytes offset length => exact core_makeBitmap _ _ _
  | reader chunks failure => exact core_makeBitmap _ _ _

@[simp] theorem core_draw (target source : String) (part place : Rect)
    (answer : Bitmap → Bool → Reply) :
    (state.draw target source part place answer).1.core = state.core := by
  unfold draw
  split
  · rfl
  · rfl
  · split
    · rfl
    · dsimp only
      rw [core_withEngine]

@[simp] theorem core_compress (name : String) (format : ImageFormat) (quality : Int)
    (answer : Except BridgeError Encoded → Reply) :
    (state.compress name format quality answer).1.core = state.core := by
  unfold compress
  split
  · dsimp only
    rw [core_withEngine]
  · rfl

@[simp] theorem core_release (name : String) : (state.release name).1.core = state.core := by
  unfold release
  split
  · rfl
  · exact core_releaseBitmap _ _

@[simp] theorem core_dropBitmap (name : String) : (state.dropBitmap name).1.core = state.core := by
  unfold dropBitmap
  split
  · rfl
  · exact core_releaseBitmap _ _

@[simp] theorem core_callRaster (call : RasterCall) :
    (state.callRaster call).1.core = state.core := by
  unfold callRaster
  split
  · dsimp only
    split
    case h_8 => rfl
    all_goals rw [core_withEngine]
  · rfl

@[simp] theorem core_scriptImages (script : ImageScript) :
    (state.scriptImages script).core = state.core := by
  unfold scriptImages
  split
  · rfl
  · rfl

/-! ### Requests, cookies, messages and streams -/

/-- A network request leaves the core. -/
@[simp] theorem core_request (request : NetRequest) (lookups : Option (List String)) :
    (state.request request lookups).1.core = state.core := by
  unfold State.request
  split
  · rfl
  · split
    · rfl
    · dsimp only
      rw [core_announce_of_silent _ rfl]
      funext releasing
      exact core_saw _ releasing (.netCall request)

@[simp] theorem core_setCookie (url value : String) :
    (state.setCookie url value).1.core = state.core := by
  unfold setCookie
  dsimp only
  split
  · rfl
  next target _ =>
    funext releasing
    have same := core_saw (state.note [state.context.cookies.entry "Set cookie" url]) releasing
      (.jarSet target value)
    split
    · exact same
    · exact same

@[simp] theorem core_getCookie (url : String) : (state.getCookie url).1.core = state.core := by
  unfold getCookie
  dsimp only
  split
  · rfl
  · funext releasing
    split
    · exact core_saw _ releasing (.jarGet _)
    · exact core_saw _ releasing (.jarGet _)

@[simp] theorem core_getDisabledCookie (url : String) :
    (state.getDisabledCookie url).1.core = state.core := rfl

@[simp] theorem core_post (message : HostMessage) : (state.post message).1.core = state.core := by
  unfold post
  dsimp only
  split
  · split
    · rfl
    · funext releasing
      exact core_saw _ releasing (.posted message)
  · rfl

@[simp] theorem core_subscribe (name : String) (filters : List EventFilter) :
    (state.subscribe name filters).1.core = state.core := by
  unfold subscribe
  dsimp only
  split
  · rfl
  · rfl

/-- Draining a stream leaves the core. -/
@[simp] theorem core_drain (name : String) : (state.drain name).1.core = state.core := by
  unfold drain
  split
  · rfl
  · rfl

/-! ### What is bound to a view -/

/-- Removing an interface leaves the core, which knows nothing of bindings. -/
@[simp] theorem core_removeInterface (name interface : String) :
    (state.removeInterface name interface).1.core = state.core := by
  unfold removeInterface
  split
  · rfl
  · exact core_modifyView_of_unseen _ fun _ _ => rfl

/-- Installing a client leaves the core, which knows nothing of clients. -/
@[simp] theorem core_setClient (name : String) (client : Option (Client Action)) :
    (state.setClient name client).1.core = state.core := by
  unfold setClient
  split
  · rfl
  · exact core_modifyView_of_unseen _ fun _ _ => rfl

@[simp] theorem core_inspect (name : String) (answer : View Action → Reply) :
    (state.inspect name answer).1.core = state.core := by
  unfold inspect
  split
  · rfl
  · rfl

end HostBridge.Session.State
