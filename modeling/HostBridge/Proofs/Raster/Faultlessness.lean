import HostBridge.Proofs.Raster.Drawing

/-!
# Draws without faults

The steps of a draw that are only defined under a condition, each with its condition checked:
integers of 64 bits and of 32 bits, bounds in their order, a divisor that is not 0, a source
interval that lies in the image, and parts of pictures that lie in the pictures.

Main statement: no check of a draw ever fails, and the checked draw is the draw, whatever the
mapping of positions to pixels says (`Engine.faultlessness`).
-/

namespace HostBridge.Raster

/-- What a step of a draw can do wrong. -/
inductive Fault where
  /-- A result is no integer of 64 bits. -/
  | overflow
  | zeroDivisor
  /-- The lower bound of a range lies above the upper one. -/
  | crossedBounds
  /-- An interval to be clipped from is empty or not in the image. -/
  | strayInterval
  /-- A part of an image that is not in the image. -/
  | strayPart
  /-- A picture without pixels is resized, or one to such a size. -/
  | emptyPicture
  /-- A picture is drawn where the surface is not. -/
  | strayPlace
deriving DecidableEq, Repr

/-- A computation that ends at its first fault. -/
abbrev Checked := Except Fault

namespace Checked

/-- Go on only under a condition. -/
def require (fault : Fault) (condition : Prop) [Decidable condition] : Checked Unit :=
  if condition then .ok () else .error fault

/-- A result that has to be an integer of 64 bits. -/
def int64 (n : Int) : Checked Int := do
  require .overflow (int64Min ≤ n ∧ n ≤ int64Max)
  return n

/-- The nearest integer between two bounds that are in order. -/
def between (low high n : Int) : Checked Int := do
  require .crossedBounds (low ≤ high)
  return clampBetween low high n

/-- A natural number of 32 bits. -/
def nat32? (n : Int) : Option Nat := if 0 ≤ n ∧ n < UInt32.size then some n.toNat else none

/-- A rectangle kept within a picture of the given size. -/
def clampRect (rect : Rect) (width height : Nat) : Checked Rect := do
  let within (limit : Nat) (edge : Int32) : Checked Int32 := do
    return Int32.ofInt (← between 0 (saturate32 limit).toInt edge.toInt)
  return ⟨← within width rect.left, ← within height rect.top, ← within width rect.right,
    ← within height rect.bottom⟩

/-- Clip an axis to a surface of `limit` pixels.  Nothing is visible, too, if one of the numbers in
the result has more than 32 bits. -/
def clip (mapping : Mapping) (sourceStart sourceEnd targetStart targetEnd : Int) (limit : Nat) :
    Checked (Option Span) := do
  let visibleStart := max targetStart 0
  let visibleEnd := min targetEnd limit
  if visibleStart < visibleEnd then
    let _ ← int64 (sourceEnd - sourceStart)
    let scaleDivisor ← int64 (targetEnd - targetStart)
    require .zeroDivisor (scaleDivisor ≠ 0)
    let _ ← int64 (visibleStart - targetStart)
    let lastSource ← int64 (sourceEnd - 1)
    let low ← between sourceStart lastSource
      (mapping.first sourceStart sourceEnd targetStart targetEnd visibleStart)
    let _ ← int64 (visibleEnd - targetStart)
    let leastEnd ← int64 (low + 1)
    let high ← between leastEnd sourceEnd
      (mapping.behind sourceStart sourceEnd targetStart targetEnd visibleEnd)
    let sourceLength ← int64 (high - low)
    let length ← int64 (visibleEnd - visibleStart)
    return do
      let sourceStart ← nat32? low
      let sourceLength ← nat32? sourceLength
      let length ← nat32? length
      some ⟨sourceStart, sourceLength, visibleStart.toNat, length⟩
  else return none

/-- Clip both axes from a part that has to lie in an image of the given size. -/
def spans (mapping : Mapping) (source target : Rect) (imageWidth imageHeight width height : Nat) :
    Checked (Option (Span × Span)) := do
  require .strayInterval (0 ≤ source.left.toInt ∧ source.left.toInt < source.right.toInt ∧
    source.right.toInt ≤ imageWidth)
  let x ← clip mapping source.left.toInt source.right.toInt target.left.toInt target.right.toInt
    width
  require .strayInterval (0 ≤ source.top.toInt ∧ source.top.toInt < source.bottom.toInt ∧
    source.bottom.toInt ≤ imageHeight)
  let y ← clip mapping source.top.toInt source.bottom.toInt target.top.toInt target.bottom.toInt
    height
  return match x, y with
    | some x, some y => some (x, y)
    | _, _ => none

/-- The visible part of an image as it is to be drawn. -/
def scaled (tools : Tools) (image : Picture) (x y : Span) : Checked Picture := do
  require .strayPart (x.sourceStart + x.sourceLength ≤ image.width ∧
    y.sourceStart + y.sourceLength ≤ image.height)
  let region := tools.crop image x.sourceStart y.sourceStart x.sourceLength y.sourceLength
  if x.sourceLength = x.length ∧ y.sourceLength = y.length then return region
  else
    require .emptyPicture (0 < region.width ∧ 0 < region.height ∧ 0 < x.length ∧ 0 < y.length)
    return tools.resize region x.length y.length

/-- A surface with the visible part of an image drawn onto it. -/
def paint (tools : Tools) (image surface : Picture) (x y : Span) : Checked Picture := do
  let front ← scaled tools image x y
  require .strayPlace (x.start + front.width ≤ surface.width ∧
    y.start + front.height ≤ surface.height)
  return tools.overlay surface front x.start y.start

open Engine (log field) in
/-- Draw a part of a picture onto a part of a surface. -/
def drawPicture (tools : Tools) (engine : Engine) (picture : Picture) (surface : UInt64)
    (source target : Rect) : Checked (EngineReply Engine (Except EngineError Unit)) := do
  let source ← clampRect source picture.width picture.height
  if source.isEmpty ∨ target.isEmpty then
    return engine.reply (.ok ())
      [log .debug "Skipping draw of empty region" [("src", source.shown), ("dst", target.shown)]]
  else
    match engine.surfaces.find? surface with
    | none => return engine.reply (.error (.unknownHandle surface)) []
    | some onto =>
      match ← spans tools.mapping source target picture.width picture.height onto.width
        onto.height with
      | none =>
        return engine.reply (.ok ())
          [log .debug "Destination outside surface"
            [("dst", target.shown), field "surface_width" onto.width,
              field "surface_height" onto.height]]
      | some (x, y) =>
        let painted ← paint tools picture onto x y
        return { engine with surfaces := engine.surfaces.insert surface painted }.reply (.ok ()) []

/-- Draw a part of an image onto a part of a surface. -/
def draw (tools : Tools) (engine : Engine) (image surface : UInt64) (source target : Rect) :
    Checked (EngineReply Engine (Except EngineError Unit)) :=
  match engine.images.find? image with
  | none => return engine.reply (.error (.unknownHandle image)) []
  | some picture => drawPicture tools engine picture surface source target

/-! ### Checks that hold -/

/-- A condition that holds raises no fault. -/
theorem require_of {condition : Prop} [Decidable condition] (fault : Fault) (holds : condition) :
    require fault condition = .ok () := if_pos holds

/-- An integer that fits into sixty-four bits raises no fault. -/
theorem int64_of {n : Int} (above : -9223372036854775808 ≤ n) (below : n ≤ 9223372036854775807) :
    int64 n = .ok n := by
  rw [int64, require_of _ ⟨above, below⟩]
  rfl

/-- Clamping between ordered bounds raises no fault. -/
theorem between_of {low high : Int} (ordered : low ≤ high) (n : Int) :
    between low high n = .ok (clampBetween low high n) := by
  rw [between, require_of _ ordered]
  rfl

/-- An integer that fits into thirty-two bits is converted. -/
theorem nat32?_of {n : Int} (above : 0 ≤ n) (below : n < 4294967296) :
    nat32? n = some n.toNat := if_pos ⟨above, below⟩

/-- Clamping a rectangle to a picture raises no fault. -/
theorem clampRect_eq (rect : Rect) (width height : Nat) :
    clampRect rect width height = .ok (Engine.clampRect rect width height) := by
  have ordered (limit : Nat) : 0 ≤ (saturate32 limit).toInt := by
    rw [toInt_saturate32, int32Min, int32Max]
    omega
  unfold clampRect
  simp only [between_of (ordered _)]
  rfl

/-- Clipping a span raises no fault, for a part of the picture with an area. -/
theorem clip_eq (mapping : Mapping) {sourceStart sourceEnd : Int32} (targetStart targetEnd : Int32)
    (limit : Nat) (inside : 0 ≤ sourceStart.toInt)
    (solid : sourceStart.toInt < sourceEnd.toInt) :
    clip mapping sourceStart.toInt sourceEnd.toInt targetStart.toInt targetEnd.toInt limit =
      .ok (Span.clipWith mapping sourceStart.toInt sourceEnd.toInt targetStart.toInt
        targetEnd.toInt limit) := by
  have sourceTop := sourceEnd.toInt_lt
  have targetBottom := targetStart.le_toInt
  have targetTop := targetEnd.toInt_lt
  generalize sourceStart.toInt = sourceStart at *
  generalize sourceEnd.toInt = sourceEnd at *
  generalize targetStart.toInt = targetStart at *
  generalize targetEnd.toInt = targetEnd at *
  unfold clip Span.clipWith
  dsimp only
  split
  next seen =>
    generalize mapping.first sourceStart sourceEnd targetStart targetEnd (max targetStart 0) = first
    generalize
      mapping.behind sourceStart sourceEnd targetStart targetEnd (min targetEnd limit) = behind
    have ordered : sourceStart ≤ sourceEnd - 1 := by omega
    have lowAbove := le_clampBetween ordered first
    have lowBelow := clampBetween_le ordered first
    have room : clampBetween sourceStart (sourceEnd - 1) first + 1 ≤ sourceEnd := by omega
    have highAbove := le_clampBetween room behind
    have highBelow := clampBetween_le room behind
    have divisor : targetEnd - targetStart ≠ 0 := by omega
    simp (disch := omega) only [int64_of, between_of, nat32?_of, require_of _ divisor, bind,
      Except.bind, Option.bind]
    rfl
  · rfl

variable {tools : Tools} {picture onto : Picture} {part target : Rect} {x y : Span}

/-- Clipping both spans raises no fault. -/
theorem spans_eq {width height : Nat} (mapping : Mapping) (target : Rect)
    (inside : Inside part picture.width picture.height) :
    spans mapping part target picture.width picture.height width height =
      .ok (Engine.spans mapping part target width height) := by
  unfold spans
  rw [require_of _ ⟨inside.left, inside.across, inside.right⟩,
    require_of _ ⟨inside.top, inside.down, inside.bottom⟩,
    clip_eq mapping target.left target.right width inside.left inside.across,
    clip_eq mapping target.top target.bottom height inside.top inside.down]
  rfl

/-- Scaling what is drawn raises no fault. -/
theorem scaled_eq (reliable : tools.Reliable) {width height : Nat}
    (inside : Inside part picture.width picture.height)
    (clipped : Clipped part target width height x y) :
    scaled tools picture x y = .ok (Engine.scaled tools picture x y) := by
  have right := clipped.across.sourceEnd
  have bottom := clipped.down.sourceEnd
  have pictureRight := inside.right
  have pictureBottom := inside.bottom
  have across : x.sourceStart + x.sourceLength ≤ picture.width := by omega
  have down : y.sourceStart + y.sourceLength ≤ picture.height := by omega
  obtain ⟨regionWidth, regionHeight⟩ :=
    reliable.crop picture x.sourceStart y.sourceStart x.sourceLength y.sourceLength across down
  unfold scaled Engine.scaled
  rw [require_of _ ⟨across, down⟩]
  dsimp only [bind, Except.bind]
  split
  · rfl
  · rw [require_of _ ⟨Nat.lt_of_lt_of_eq clipped.across.shows regionWidth.symm,
      Nat.lt_of_lt_of_eq clipped.down.shows regionHeight.symm, clipped.across.visible,
      clipped.down.visible⟩]
    rfl

/-- Painting what is drawn raises no fault. -/
theorem paint_eq (reliable : tools.Reliable) (inside : Inside part picture.width picture.height)
    (clipped : Clipped part target onto.width onto.height x y) :
    paint tools picture onto x y = .ok (Engine.paint tools picture onto x y) := by
  obtain ⟨width, height⟩ := Engine.size_scaled reliable inside clipped
  have across : x.start + (Engine.scaled tools picture x y).width ≤ onto.width :=
    width ▸ clipped.across.limit
  have down : y.start + (Engine.scaled tools picture x y).height ≤ onto.height :=
    height ▸ clipped.down.limit
  unfold paint
  rw [scaled_eq reliable inside clipped]
  dsimp only [bind, Except.bind]
  rw [require_of _ ⟨across, down⟩]
  rfl

/-- Drawing a picture raises no fault. -/
theorem drawPicture_eq (reliable : tools.Reliable) (engine : Engine) (picture : Picture)
    (surface : UInt64) (source target : Rect) :
    drawPicture tools engine picture surface source target =
      .ok (engine.drawPicture tools picture surface source target) := by
  unfold drawPicture Engine.drawPicture
  rw [clampRect_eq]
  dsimp only [bind, Except.bind]
  split
  · rfl
  next solid =>
    rw [not_or, Bool.not_eq_true, Bool.not_eq_true] at solid
    have inside := Inside.of_clampRect solid.1
    cases engine.surfaces.find? surface with
    | none => rfl
    | some onto =>
        dsimp only
        rw [spans_eq tools.mapping target inside]
        dsimp only
        cases clipped : Engine.spans tools.mapping
            (Engine.clampRect source picture.width picture.height) target onto.width onto.height with
        | none => rfl
        | some pair =>
            dsimp only
            rw [paint_eq reliable inside (.of_spans inside clipped)]
            rfl

/-- Drawing an image raises no fault, whether or not image and surface are there. -/
theorem draw_eq (reliable : tools.Reliable) (engine : Engine) (image surface : UInt64)
    (source target : Rect) :
    draw tools engine image surface source target =
      .ok (engine.drawWith tools image surface source target) := by
  unfold draw Engine.drawWith
  cases engine.images.find? image with
  | none => rfl
  | some picture => exact drawPicture_eq reliable engine picture surface source target

end Checked

/-- How an axis is clipped: without a fault, to nothing exactly if no position of the destination is
visible, and else to a span that fits. -/
structure Span.ClipsWell (mapping : Mapping)
    (sourceStart sourceEnd targetStart targetEnd : Int32) (limit : Nat) : Prop where
  faultless :
    Checked.clip mapping sourceStart.toInt sourceEnd.toInt targetStart.toInt targetEnd.toInt limit =
      .ok (clipWith mapping sourceStart.toInt sourceEnd.toInt targetStart.toInt targetEnd.toInt
        limit)
  missed :
    clipWith mapping sourceStart.toInt sourceEnd.toInt targetStart.toInt targetEnd.toInt limit =
        none ↔
      ∀ position : Int, targetStart.toInt ≤ position → position < targetEnd.toInt →
        ¬ (0 ≤ position ∧ position < limit)
  fits : ∀ span,
    clipWith mapping sourceStart.toInt sourceEnd.toInt targetStart.toInt targetEnd.toInt limit =
        some span →
      span.Fits sourceStart.toInt sourceEnd.toInt targetStart.toInt targetEnd.toInt limit

/-- Clipping keeps every bound, and finds nothing exactly when nothing is seen. -/
theorem Span.clipsWell (mapping : Mapping) {sourceStart sourceEnd : Int32}
    (targetStart targetEnd : Int32) (limit : Nat) (inside : 0 ≤ sourceStart.toInt)
    (solid : sourceStart.toInt < sourceEnd.toInt) :
    ClipsWell mapping sourceStart sourceEnd targetStart targetEnd limit where
  faultless := Checked.clip_eq mapping targetStart targetEnd limit inside solid
  missed := clipWith_eq_none_iff
  fits _ clipped := fits_clipWith solid inside clipped

namespace Engine

/-- Drawing an image that is there onto a surface that is there succeeds. -/
theorem result_drawWith {engine : Engine} {image surface : UInt64} {picture onto : Picture}
    (drawn : engine.images.find? image = some picture)
    (found : engine.surfaces.find? surface = some onto) (tools : Tools) (source target : Rect) :
    (engine.drawWith tools image surface source target).result = .ok () := by
  rw [drawWith_of_present drawn]
  have draws := draws_drawPicture tools engine picture surface source target
  generalize engine.drawPicture tools picture surface source target = reply at draws ⊢
  cases draws with
  | skips _ => rfl
  | refuses _ absent => cases absent.symm.trans found
  | misses _ _ _ => rfl
  | paints _ _ _ => rfl

/-- With tools that can be relied upon, whatever their mapping of positions to pixels says, a draw
does every step without a fault.  It succeeds on an image and a surface that are known, clips only
from a part of the image that has pixels, and every such clipping stays in its bounds; a rectangle
counts as empty exactly if its edges meet or cross. -/
theorem faultlessness (tools : Tools) (reliable : tools.Reliable) (engine : Engine)
    (image surface : UInt64) (source target : Rect) :
    Checked.draw tools engine image surface source target =
        .ok (engine.drawWith tools image surface source target) ∧
      (∀ picture onto, engine.images.find? image = some picture →
        engine.surfaces.find? surface = some onto →
          (engine.drawWith tools image surface source target).result = .ok () ∧
            ((clampRect source picture.width picture.height).isEmpty = false →
              Inside (clampRect source picture.width picture.height) picture.width
                picture.height)) ∧
        (∀ (mapping : Mapping) (sourceStart sourceEnd targetStart targetEnd : Int32) (limit : Nat),
          0 ≤ sourceStart → sourceStart < sourceEnd →
            Span.ClipsWell mapping sourceStart sourceEnd targetStart targetEnd limit) ∧
          ∀ rect : Rect, rect.isEmpty = true ↔ rect.right ≤ rect.left ∨ rect.bottom ≤ rect.top := by
  refine ⟨Checked.draw_eq reliable engine image surface source target, ?_, ?_, Rect.isEmpty_iff⟩
  · intro picture onto drawn found
    exact ⟨result_drawWith drawn found tools source target, Inside.of_clampRect⟩
  · intro mapping sourceStart sourceEnd targetStart targetEnd limit inside solid
    rw [Int32.le_iff_toInt_le] at inside
    rw [Int32.lt_iff_toInt_lt] at solid
    exact Span.clipsWell mapping targetStart targetEnd limit inside solid

/-- A draw to a place that the surface cuts off on three sides. -/
theorem faultlessness_of_overhang :
    let picture := Picture.blank 4 2
    let onto := Picture.blank 3 3
    let engine : Engine := ⟨Table.empty.insert 1 picture, Table.empty.insert 2 onto, 3⟩
    let source : Rect := ⟨0, 0, 4, 2⟩
    let target : Rect := ⟨-2, 1, 6, 9⟩
    Tools.standard.Reliable ∧ engine.images.find? 1 = some picture ∧
      engine.surfaces.find? 2 = some onto ∧
        Checked.draw .standard engine 1 2 source target = .ok (engine.draw 1 2 source target) ∧
          (engine.draw 1 2 source target).result = .ok () ∧
            Inside (clampRect source 4 2) 4 2 ∧
              (0 : Int32) ≤ source.left ∧ source.left < source.right ∧
                Span.ClipsWell .binary64 source.left source.right target.left target.right 3 ∧
                  Span.clip 0 4 (-2) 6 3 = some ⟨1, 2, 0, 3⟩ ∧
                    Span.Fits ⟨1, 2, 0, 3⟩ 0 4 (-2) 6 3 ∧ target.isEmpty = false := by
  intro picture onto engine source target
  have drawn : engine.images.find? 1 = some picture := rfl
  have found : engine.surfaces.find? 2 = some onto := rfl
  have inside : (0 : Int32) ≤ source.left := by decide
  have solid : source.left < source.right := by decide
  have clipped : Span.clip 0 4 (-2) 6 3 = some ⟨1, 2, 0, 3⟩ := by decide +kernel
  obtain ⟨faultless, known, clips, empty⟩ :=
    faultlessness .standard Tools.reliable_standard engine 1 2 source target
  obtain ⟨succeeds, within⟩ := known picture onto drawn found
  have well := clips .binary64 source.left source.right target.left target.right 3 inside solid
  refine ⟨Tools.reliable_standard, drawn, found, faultless, succeeds, within (by decide), inside,
    solid, well, clipped, well.fits _ clipped, ?_⟩
  rw [← Bool.not_eq_true, empty]
  decide

end Engine

end HostBridge.Raster
