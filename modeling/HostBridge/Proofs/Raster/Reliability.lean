import HostBridge.Raster.Tools

/-!
# What tools are relied upon for

Pictures by their pixels, what it means that only a part of a picture changes, and what a raster
engine relies on of its tools: a part and a resized picture have the size that was asked for, and a
picture drawn over another one touches nothing but the place where it is drawn.

Main statement: the standard tools can be relied upon (`Tools.reliable_standard`).
-/

namespace HostBridge.Raster

namespace Picture

/-- A picture made from a function has its pixels. -/
theorem pixel_ofFn {width height x y : Nat} (f : Nat → Nat → Pixel) (across : x < width)
    (down : y < height) : (ofFn width height f).pixel x y = f x y := by
  have inside : y * width + x < width * height := by
    calc y * width + x < y * width + width := Nat.add_lt_add_left across _
      _ = (y + 1) * width := (Nat.succ_mul y width).symm
      _ ≤ height * width := Nat.mul_le_mul_right width down
      _ = width * height := Nat.mul_comm height width
  have column : (y * width + x) % width = x := by
    rw [Nat.add_comm, Nat.add_mul_mod_self_right, Nat.mod_eq_of_lt across]
  have row : (y * width + x) / width = y := by
    rw [Nat.add_comm, Nat.add_mul_div_right _ _ (Nat.zero_lt_of_lt across),
      Nat.div_eq_of_lt across, Nat.zero_add]
  rw [pixel, ofFn, Array.getD_eq_getD_getElem?, Array.getElem?_ofFn, dif_pos inside,
    Option.getD_some, column, row]

/-- Two pictures of one size that differ at most in certain pixels. -/
structure ChangesOnly (area : Nat → Nat → Prop) (before after : Picture) : Prop where
  width : after.width = before.width
  height : after.height = before.height
  outside : ∀ x y, x < before.width → y < before.height → ¬ area x y →
    after.pixel x y = before.pixel x y

namespace ChangesOnly

variable {area wider : Nat → Nat → Prop} {before after : Picture}

/-- A picture that is left alone changes nowhere. -/
theorem refl (picture : Picture) : picture.ChangesOnly area picture :=
  ⟨rfl, rfl, fun _ _ _ _ _ => rfl⟩

/-- What changes within an area changes within a wider one. -/
theorem mono (changes : before.ChangesOnly area after)
    (within : ∀ x y, x < before.width → y < before.height → area x y → wider x y) :
    before.ChangesOnly wider after where
  width := changes.width
  height := changes.height
  outside x y across down spared :=
    changes.outside x y across down fun touched => spared (within x y across down touched)

end ChangesOnly

/-- The place of a picture that is drawn over another one. -/
def Covers (front : Picture) (left top x y : Nat) : Prop :=
  left ≤ x ∧ x < left + front.width ∧ top ≤ y ∧ y < top + front.height

/-- Laying a picture over another changes only what it covers. -/
theorem changesOnly_overlay (picture front : Picture) (left top : Nat) :
    picture.ChangesOnly (front.Covers left top) (picture.overlay front left top) where
  width := rfl
  height := rfl
  outside x y across down spared := by
    rw [overlay, pixel_ofFn _ across down]
    exact if_neg spared

end Picture

/-- What an engine relies on: parts and resized pictures have the size that was asked for, and
drawing over a picture changes it only where the other one is. -/
structure Tools.Reliable (tools : Tools) : Prop where
  crop : ∀ (picture : Picture) (left top width height : Nat), left + width ≤ picture.width →
    top + height ≤ picture.height →
      (tools.crop picture left top width height).width = width ∧
        (tools.crop picture left top width height).height = height
  resize : ∀ (picture : Picture) (width height : Nat), 0 < picture.width → 0 < picture.height →
    0 < width → 0 < height →
      (tools.resize picture width height).width = width ∧
        (tools.resize picture width height).height = height
  overlay : ∀ (picture front : Picture) (left top : Nat),
    picture.ChangesOnly (front.Covers left top) (tools.overlay picture front left top)

/-- The standard tools are reliable. -/
theorem Tools.reliable_standard : Tools.standard.Reliable where
  crop _ _ _ _ _ _ _ := ⟨rfl, rfl⟩
  resize _ _ _ _ _ _ _ := ⟨rfl, rfl⟩
  overlay := Picture.changesOnly_overlay

end HostBridge.Raster
