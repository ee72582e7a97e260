import HostBridge.Json.Decode
import HostBridge.Text.Quoted

/-!
# Rectangles

Axis-aligned rectangles in pixel coordinates of 32 bits.  A rectangle crosses the boundary as the
array of its left, top, right and bottom coordinates.
-/

namespace HostBridge

/-- A rectangle by its edges; the right and bottom edges are exclusive. -/
structure Rect where
  left : Int32
  top : Int32
  right : Int32
  bottom : Int32
deriving DecidableEq, Repr, Inhabited

namespace Rect

/-- The rectangle of the given size at the origin; sizes beyond the coordinate range are capped. -/
def ofSize (width height : UInt32) : Rect :=
  ⟨0, 0, saturate32 width.toNat, saturate32 height.toNat⟩

/-- The horizontal extent, kept within the coordinate range. -/
def width (rect : Rect) : Int32 := saturate32 (rect.right.toInt - rect.left.toInt)

/-- The vertical extent, kept within the coordinate range. -/
def height (rect : Rect) : Int32 := saturate32 (rect.bottom.toInt - rect.top.toInt)

/-- Whether the rectangle has no positive area. -/
def isEmpty (rect : Rect) : Bool := rect.width.toInt ≤ 0 || rect.height.toInt ≤ 0

/-- The four edges in their order. -/
def edges (rect : Rect) : List Int32 := [rect.left, rect.top, rect.right, rect.bottom]

/-- The rectangle as an array of its edges. -/
def toJson (rect : Rect) : Json := .array (rect.edges.map (fun edge => .ofInt edge.toInt))

/-- Read an array of exactly four edges. -/
def decode : Json.Decoder Rect
  | .array [left, top, right, bottom] => do
    let left ← Json.Decoder.int32 left
    let top ← Json.Decoder.int32 top
    let right ← Json.Decoder.int32 right
    let bottom ← Json.Decoder.int32 bottom
    return ⟨left, top, right, bottom⟩
  | _ => none

/-- The diagnostic text of a rectangle. -/
def shown (rect : Rect) : String :=
  Text.showRecord "Rect"
    [("left", toString rect.left.toInt), ("top", toString rect.top.toInt),
      ("right", toString rect.right.toInt), ("bottom", toString rect.bottom.toInt)]

end Rect

end HostBridge
