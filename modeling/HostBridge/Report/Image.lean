import HostBridge.Image.Bitmap
import HostBridge.Report.Net

/-!
# Reports of images

Rectangles, bitmaps, encoded images and the calls of image engines as JSON.
-/

namespace HostBridge

/-- A rectangle as an object. -/
def Rect.report (rect : Rect) : Json :=
  .object [("array", rect.toJson), ("width", .ofInt rect.width.toInt),
    ("height", .ofInt rect.height.toInt), ("empty", .bool rect.isEmpty),
    ("json", .string rect.toJson.render), ("debug", .string rect.shown),
    ("is_default", .bool (rect = default))]

/-- A bitmap as an object. -/
def Bitmap.report (bitmap : Bitmap) : Json :=
  .object [("width", .ofNat bitmap.width.toNat), ("height", .ofNat bitmap.height.toNat),
    ("surface", .bool bitmap.isSurface), ("image", .bool bitmap.isImage),
    ("released", .bool bitmap.isReleased), ("debug", .string bitmap.shown)]

/-- The name of a kind of file. -/
def FileKind.name : FileKind → String
  | .jpeg => "Jpeg"
  | .png => "Png"
  | .webp => "WebP"

/-- An encoded image: its bytes, or its kind and its picture.  The pixels of a file that loses some
are left out. -/
def Encoded.report : Encoded → Json
  | .bytes data => .object [("bytes", bytesReport data)]
  | .file kind picture =>
    .object ([("format", .string kind.name), ("width", .ofNat picture.width),
        ("height", .ofNat picture.height)]
      ++ (if kind = .jpeg then [] else [("rgba", bytesReport picture.bytes)]))

/-- A call of an image engine. -/
def ImageCall.report : ImageCall → Json
  | .decode bytes => .array [.string "img.decode", bytesReport bytes]
  | .surface width height =>
    .array [.string "img.surface", .ofNat width.toNat, .ofNat height.toNat]
  | .draw image onto source target =>
    .array [.string "img.draw", .ofUInt64 image, .ofUInt64 onto, source.toJson, target.toJson]
  | .encodeSurface address format quality =>
    .array [.string "img.encode_surface", .ofUInt64 address, .string format.name, .ofNat quality]
  | .encodeImage address format quality =>
    .array [.string "img.encode_image", .ofUInt64 address, .string format.name, .ofNat quality]
  | .releaseImage address => .array [.string "img.release_image", .ofUInt64 address]
  | .releaseSurface address => .array [.string "img.release_surface", .ofUInt64 address]

end HostBridge
