import HostBridge.Proofs.Raster.Reliability
import HostBridge.Raster.Engine

/-!
# What clipping leaves

Rectangles are kept within a picture and destination intervals within a surface.

Main statements: the saturated extents of a rectangle tell whether it is empty (`Rect.isEmpty_iff`),
what is left of a rectangle that is not empty lies in the picture (`Inside.of_clampRect`), under any
mapping a clipped axis stays within its source and within what is visible of its destination
(`Span.fits_clipWith`, `Span.clipWith_eq_none_iff`), and what is drawn has the size of what is
visible, scaled or not (`Engine.size_scaled`).
-/

namespace HostBridge

/-- Saturation clamps an integer to thirty-two bits. -/
theorem toInt_saturate32 (n : Int) :
    (saturate32 n).toInt = max int32Min (min n int32Max) := by
  unfold saturate32 int32Min int32Max
  apply Int32.toInt_ofInt_of_le <;> omega

/-- A rectangle is empty when one of its sides is not positive. -/
theorem Rect.isEmpty_iff (rect : Rect) :
    rect.isEmpty = true ↔ rect.right ≤ rect.left ∨ rect.bottom ≤ rect.top := by
  rw [Int32.le_iff_toInt_le, Int32.le_iff_toInt_le]
  simp only [isEmpty, width, height, toInt_saturate32, int32Min, int32Max, Bool.or_eq_true,
    decide_eq_true_eq]
  omega

/-- A pixel of a picture lies in a rectangle. -/
def Rect.Contains (rect : Rect) (x y : Nat) : Prop :=
  rect.left.toInt ≤ x ∧ (x : Int) < rect.right.toInt ∧
    rect.top.toInt ≤ y ∧ (y : Int) < rect.bottom.toInt

namespace Raster

section Clamp

variable {low high : Int}

theorem le_clampBetween (ordered : low ≤ high) (n : Int) : low ≤ clampBetween low high n := by
  unfold clampBetween
  split
  · exact Int.le_refl low
  · split <;> omega

theorem clampBetween_le (ordered : low ≤ high) (n : Int) : clampBetween low high n ≤ high := by
  unfold clampBetween
  split
  · exact ordered
  · split <;> omega

end Clamp

/-- A part of a picture of the given size that is not empty. -/
structure Inside (part : Rect) (width height : Nat) : Prop where
  left : 0 ≤ part.left.toInt
  across : part.left.toInt < part.right.toInt
  right : part.right.toInt ≤ width
  top : 0 ≤ part.top.toInt
  down : part.top.toInt < part.bottom.toInt
  bottom : part.bottom.toInt ≤ height

/-- An edge that is kept between 0 and a size is a 32-bit integer, whatever the size. -/
theorem toInt_ofInt_clampBetween (limit : Nat) (edge : Int) :
    (Int32.ofInt (clampBetween 0 (saturate32 limit).toInt edge)).toInt =
      clampBetween 0 (saturate32 limit).toInt edge := by
  have top : (saturate32 limit).toInt < 2147483648 := Int32.toInt_lt _
  have ordered : 0 ≤ (saturate32 limit).toInt := by
    rw [toInt_saturate32, int32Min, int32Max]
    omega
  have lower := le_clampBetween ordered edge
  have upper := clampBetween_le ordered edge
  apply Int32.toInt_ofInt_of_le <;> omega

/-- A clamped rectangle with an area is inside the picture. -/
theorem Inside.of_clampRect {rect : Rect} {width height : Nat}
    (solid : (Engine.clampRect rect width height).isEmpty = false) :
    Inside (Engine.clampRect rect width height) width height := by
  have within (limit : Nat) : 0 ≤ (saturate32 limit).toInt ∧ (saturate32 limit).toInt ≤ limit := by
    rw [toInt_saturate32, int32Min, int32Max]
    omega
  have area := mt (Rect.isEmpty_iff _).mpr (ne_true_of_eq_false solid)
  rw [not_or, Int32.le_iff_toInt_le, Int32.le_iff_toInt_le] at area
  obtain ⟨across, down⟩ := area
  refine ⟨?_, by omega, ?_, ?_, by omega, ?_⟩
  all_goals
    unfold Engine.clampRect
    dsimp only
    rw [toInt_ofInt_clampBetween]
  · exact le_clampBetween (within width).1 _
  · exact Int.le_trans (clampBetween_le (within width).1 _) (within width).2
  · exact le_clampBetween (within height).1 _
  · exact Int.le_trans (clampBetween_le (within height).1 _) (within height).2

namespace Span

/-- A clipped axis takes some pixels of its source interval to some visible pixels of its
destination, from the first of them on. -/
structure Fits (span : Span) (sourceStart sourceEnd targetStart targetEnd : Int) (limit : Nat) :
    Prop where
  shows : 1 ≤ span.sourceLength
  sourceStart : sourceStart ≤ span.sourceStart
  sourceEnd : (span.sourceStart : Int) + span.sourceLength ≤ sourceEnd
  visible : 1 ≤ span.length
  start : (span.start : Int) = max targetStart 0
  limit : span.start + span.length ≤ limit
  targetStart : targetStart ≤ span.start
  targetEnd : (span.start : Int) + span.length ≤ targetEnd

variable {mapping : Mapping} {sourceStart sourceEnd targetStart targetEnd : Int} {limit : Nat}

/-- A clipped span fits both the source and the target, whatever the mapping. -/
theorem fits_clipWith {span : Span} (solid : sourceStart < sourceEnd) (inside : 0 ≤ sourceStart)
    (clipped : clipWith mapping sourceStart sourceEnd targetStart targetEnd limit = some span) :
    span.Fits sourceStart sourceEnd targetStart targetEnd limit := by
  unfold clipWith at clipped
  dsimp only at clipped
  split at clipped
  next seen =>
    obtain rfl := Option.some.inj clipped
    -- the two bounds of the source, each kept where the one before leaves room for it
    generalize mapping.first sourceStart sourceEnd targetStart targetEnd (max targetStart 0) = first
    generalize
      mapping.behind sourceStart sourceEnd targetStart targetEnd (min targetEnd limit) = behind
    have last : sourceStart ≤ sourceEnd - 1 := by omega
    have lowAbove := le_clampBetween last first
    have lowBelow := clampBetween_le last first
    have room : clampBetween sourceStart (sourceEnd - 1) first + 1 ≤ sourceEnd := by omega
    have highAbove := le_clampBetween room behind
    have highBelow := clampBetween_le room behind
    constructor <;> dsimp only <;> omega
  · cases clipped

/-- Nothing is clipped exactly when no position of the target is on the surface. -/
theorem clipWith_eq_none_iff :
    clipWith mapping sourceStart sourceEnd targetStart targetEnd limit = none ↔
      ∀ position : Int, targetStart ≤ position → position < targetEnd →
        ¬ (0 ≤ position ∧ position < limit) := by
  unfold clipWith
  dsimp only
  split
  next seen =>
    refine iff_of_false nofun fun missed => ?_
    apply missed (max targetStart 0) <;> omega
  next unseen =>
    refine iff_of_true rfl fun position above below seen => unseen ?_
    omega

/-- Where a span is clipped some position of the target is on the surface. -/
theorem exists_visible {span : Span}
    (clipped : clipWith mapping sourceStart sourceEnd targetStart targetEnd limit = some span) :
    ∃ position : Nat, targetStart ≤ position ∧ (position : Int) < targetEnd ∧ position < limit := by
  unfold clipWith at clipped
  dsimp only at clipped
  split at clipped
  next seen => exact ⟨(max targetStart 0).toNat, by omega, by omega, by omega⟩
  · cases clipped

end Span

/-- Both axes of a draw, clipped from a part of an image onto a surface of the given size. -/
structure Clipped (part target : Rect) (width height : Nat) (x y : Span) : Prop where
  across : x.Fits part.left.toInt part.right.toInt target.left.toInt target.right.toInt width
  down : y.Fits part.top.toInt part.bottom.toInt target.top.toInt target.bottom.toInt height

namespace Engine

variable {tools : Tools} {mapping : Mapping} {part target : Rect} {width height : Nat} {x y : Span}

theorem spans_eq_some_iff :
    spans mapping part target width height = some (x, y) ↔
      Span.clipWith mapping part.left.toInt part.right.toInt target.left.toInt target.right.toInt
          width = some x ∧
        Span.clipWith mapping part.top.toInt part.bottom.toInt target.top.toInt
          target.bottom.toInt height = some y := by
  unfold spans
  split
  next across down => simp [across, down]
  next missing =>
    refine iff_of_false nofun ?_
    rintro ⟨across, down⟩
    exact missing _ _ across down

/-- Nothing of a draw is visible where no pixel of the surface lies in the target. -/
theorem spans_eq_none_iff :
    spans mapping part target width height = none ↔
      ∀ x y, x < width → y < height → ¬ target.Contains x y := by
  constructor
  · intro unseen x y across down contained
    obtain ⟨left, right, top, bottom⟩ := contained
    have seenAcross : Span.clipWith mapping part.left.toInt part.right.toInt target.left.toInt
        target.right.toInt width ≠ none := fun missed =>
      Span.clipWith_eq_none_iff.mp missed x left right ⟨by omega, by omega⟩
    have seenDown : Span.clipWith mapping part.top.toInt part.bottom.toInt target.top.toInt
        target.bottom.toInt height ≠ none := fun missed =>
      Span.clipWith_eq_none_iff.mp missed y top bottom ⟨by omega, by omega⟩
    obtain ⟨x, across⟩ := Option.ne_none_iff_exists'.mp seenAcross
    obtain ⟨y, down⟩ := Option.ne_none_iff_exists'.mp seenDown
    rw [spans_eq_some_iff.mpr ⟨across, down⟩] at unseen
    cases unseen
  · intro missed
    cases clipped : spans mapping part target width height with
    | none => rfl
    | some pair =>
        obtain ⟨x, y⟩ := pair
        obtain ⟨across, down⟩ := spans_eq_some_iff.mp clipped
        obtain ⟨column, left, right, inWidth⟩ := Span.exists_visible across
        obtain ⟨row, top, bottom, inHeight⟩ := Span.exists_visible down
        exact absurd ⟨left, right, top, bottom⟩ (missed column row inWidth inHeight)

/-- A reliable scaling makes a picture of the size of the clipped target. -/
theorem size_scaled (reliable : tools.Reliable) {image : Picture}
    (inside : Inside part image.width image.height) (clipped : Clipped part target width height x y) :
    (scaled tools image x y).width = x.length ∧ (scaled tools image x y).height = y.length := by
  have right := clipped.across.sourceEnd
  have bottom := clipped.down.sourceEnd
  have imageRight := inside.right
  have imageBottom := inside.bottom
  obtain ⟨regionWidth, regionHeight⟩ := reliable.crop image x.sourceStart y.sourceStart
    x.sourceLength y.sourceLength (by omega) (by omega)
  unfold scaled
  dsimp only
  split
  next same =>
    rw [regionWidth, regionHeight]
    exact same
  · apply reliable.resize
    · rw [regionWidth]
      exact clipped.across.shows
    · rw [regionHeight]
      exact clipped.down.shows
    · exact clipped.across.visible
    · exact clipped.down.visible

end Engine

/-- What both spans clip is clipped. -/
theorem Clipped.of_spans {mapping : Mapping} {part target : Rect} {width height : Nat} {x y : Span}
    {imageWidth imageHeight : Nat} (inside : Inside part imageWidth imageHeight)
    (clipped : Engine.spans mapping part target width height = some (x, y)) :
    Clipped part target width height x y := by
  obtain ⟨across, down⟩ := Engine.spans_eq_some_iff.mp clipped
  exact ⟨Span.fits_clipWith inside.across inside.left across,
    Span.fits_clipWith inside.down inside.top down⟩

end Raster

end HostBridge
