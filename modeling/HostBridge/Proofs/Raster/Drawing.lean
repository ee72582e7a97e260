import HostBridge.Proofs.Raster.Clipping

/-!
# What a draw comes to

A draw of a picture is skipped, refused, out of sight, or paints one surface; there is nothing else
that it can do (`Engine.draws_drawPicture`).
-/

namespace HostBridge.Raster.Engine

/-- The part of a picture that is drawn, and the place where it is drawn, have pixels. -/
def HasArea (picture : Picture) (source target : Rect) : Prop :=
  (clampRect source picture.width picture.height).isEmpty = false ∧ target.isEmpty = false

/-- What a draw of a picture onto a surface can come to. -/
inductive Draws (tools : Tools) (engine : Engine) (picture : Picture) (surface : UInt64)
    (source target : Rect) : EngineReply Engine (Except EngineError Unit) → Prop where
  | skips {log : List Logging.Entry} (empty : ¬ HasArea picture source target) :
      Draws tools engine picture surface source target ⟨engine, .ok (), [], log⟩
  | refuses (area : HasArea picture source target)
      (absent : engine.surfaces.find? surface = none) :
      Draws tools engine picture surface source target
        ⟨engine, .error (.unknownHandle surface), [], []⟩
  | misses {log : List Logging.Entry} {onto : Picture} (area : HasArea picture source target)
      (found : engine.surfaces.find? surface = some onto)
      (unseen : spans tools.mapping (clampRect source picture.width picture.height) target
        onto.width onto.height = none) :
      Draws tools engine picture surface source target ⟨engine, .ok (), [], log⟩
  | paints {onto : Picture} {x y : Span} (area : HasArea picture source target)
      (found : engine.surfaces.find? surface = some onto)
      (seen : spans tools.mapping (clampRect source picture.width picture.height) target
        onto.width onto.height = some (x, y)) :
      Draws tools engine picture surface source target
        ⟨{ engine with surfaces := engine.surfaces.insert surface (paint tools picture onto x y) },
          .ok (), [], []⟩

/-- A picture is refused, skipped or painted. -/
theorem draws_drawPicture (tools : Tools) (engine : Engine) (picture : Picture) (surface : UInt64)
    (source target : Rect) :
    Draws tools engine picture surface source target
      (engine.drawPicture tools picture surface source target) := by
  unfold drawPicture
  dsimp only
  split
  next empty =>
    refine .skips fun area => ?_
    rcases empty with empty | empty
    · cases area.1.symm.trans empty
    · cases area.2.symm.trans empty
  next solid =>
    rw [not_or, Bool.not_eq_true, Bool.not_eq_true] at solid
    split
    next absent => exact .refuses solid absent
    next onto found =>
      split
      next unseen => exact .misses solid found unseen
      next x y seen => exact .paints solid found seen

/-- Drawing an image that is not there fails with its address. -/
theorem drawWith_of_absent {engine : Engine} {image : UInt64}
    (absent : engine.images.find? image = none) (tools : Tools) (surface : UInt64)
    (source target : Rect) :
    engine.drawWith tools image surface source target =
      ⟨engine, .error (.unknownHandle image), [], []⟩ := by
  rw [drawWith, absent]
  rfl

/-- Drawing an image that is there draws its picture. -/
theorem drawWith_of_present {engine : Engine} {image : UInt64} {picture : Picture}
    (found : engine.images.find? image = some picture) (tools : Tools) (surface : UInt64)
    (source target : Rect) :
    engine.drawWith tools image surface source target =
      engine.drawPicture tools picture surface source target := by
  rw [drawWith, found]

end HostBridge.Raster.Engine
