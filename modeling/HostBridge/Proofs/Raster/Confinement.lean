import HostBridge.Proofs.Raster.Drawing
import HostBridge.Proofs.Table

/-!
# What a draw leaves alone

Main statement: a draw changes one surface, and that only where the target rectangle lies on it; a
draw that is refused or has nothing to show changes nothing (`Engine.confinement`).
-/

namespace HostBridge.Raster.Engine

/-- A later state of an engine differs at most in the pixels of one surface that lie in a
rectangle. -/
structure Confines (before : Engine) (surface : UInt64) (target : Rect) (after : Engine) : Prop where
  images : after.images = before.images
  next : after.next = before.next
  keys : after.surfaces.keys = before.surfaces.keys
  others : ∀ other, other ≠ surface → after.surfaces.find? other = before.surfaces.find? other
  pixels : ∀ old, before.surfaces.find? surface = some old →
    ∃ new, after.surfaces.find? surface = some new ∧ old.ChangesOnly target.Contains new

/-- A draw that is refused or has nothing to show. -/
inductive ShowsNothing (engine : Engine) (image surface : UInt64) (source target : Rect) :
    Except EngineError Unit → Prop where
  | refused {error : EngineError} : ShowsNothing engine image surface source target (.error error)
  | emptyTarget {result : Except EngineError Unit} (empty : target.isEmpty = true) :
      ShowsNothing engine image surface source target result
  | emptySource {result : Except EngineError Unit} {picture : Picture}
      (drawn : engine.images.find? image = some picture)
      (empty : (clampRect source picture.width picture.height).isEmpty = true) :
      ShowsNothing engine image surface source target result
  | outOfSight {result : Except EngineError Unit} {onto : Picture}
      (found : engine.surfaces.find? surface = some onto)
      (missed : ∀ x y, x < onto.width → y < onto.height → ¬ target.Contains x y) :
      ShowsNothing engine image surface source target result

theorem Confines.refl (engine : Engine) (surface : UInt64) (target : Rect) :
    engine.Confines surface target engine :=
  ⟨rfl, rfl, rfl, fun _ _ => rfl, fun old found => ⟨old, found, .refl old⟩⟩

variable {tools : Tools} {engine : Engine} {image surface : UInt64} {source target : Rect}

/-- Painting changes only pixels of the target. -/
theorem changesOnly_paint (reliable : tools.Reliable) {picture onto : Picture} {x y : Span}
    (area : HasArea picture source target)
    (seen : spans tools.mapping (clampRect source picture.width picture.height) target
      onto.width onto.height = some (x, y)) :
    onto.ChangesOnly target.Contains (paint tools picture onto x y) := by
  have inside := Inside.of_clampRect area.1
  have clipped := Clipped.of_spans inside seen
  obtain ⟨width, height⟩ := size_scaled reliable inside clipped
  apply (reliable.overlay onto (scaled tools picture x y) x.start y.start).mono
  rintro column row - - ⟨left, right, top, bottom⟩
  have targetLeft := clipped.across.targetStart
  have targetRight := clipped.across.targetEnd
  have targetTop := clipped.down.targetStart
  have targetBottom := clipped.down.targetEnd
  exact ⟨by omega, by omega, by omega, by omega⟩

/-- Drawing a picture is confined to the target on its surface. -/
theorem confines_drawPicture (reliable : tools.Reliable) (engine : Engine) (picture : Picture)
    (surface : UInt64) (source target : Rect) :
    engine.Confines surface target
      (engine.drawPicture tools picture surface source target).engine := by
  have draws := draws_drawPicture tools engine picture surface source target
  generalize engine.drawPicture tools picture surface source target = reply at draws ⊢
  cases draws with
  | skips _ => exact .refl engine surface target
  | refuses _ _ => exact .refl engine surface target
  | misses _ _ _ => exact .refl engine surface target
  | @paints onto x y area found seen =>
      refine ⟨rfl, rfl, Table.keys_insert_of_present _ _ found, ?_, ?_⟩
      · intro other different
        exact Table.find?_insert_of_ne _ _ different
      · intro old present
        obtain rfl := Option.some.inj (found.symm.trans present)
        exact ⟨_, Table.find?_insert_self _ _ _, changesOnly_paint reliable area seen⟩

/-- A draw that shows nothing leaves the engine as it is. -/
theorem engine_drawPicture_of_showsNothing {picture : Picture}
    (drawn : engine.images.find? image = some picture)
    (nothing : ShowsNothing engine image surface source target
      (engine.drawPicture tools picture surface source target).result) :
    (engine.drawPicture tools picture surface source target).engine = engine := by
  have draws := draws_drawPicture tools engine picture surface source target
  generalize engine.drawPicture tools picture surface source target = reply at draws nothing ⊢
  cases draws with
  | skips _ => rfl
  | refuses _ _ => rfl
  | misses _ _ _ => rfl
  | @paints onto x y area found seen =>
      exfalso
      cases nothing with
      | emptyTarget empty => cases area.2.symm.trans empty
      | emptySource present empty =>
          obtain rfl := Option.some.inj (drawn.symm.trans present)
          cases area.1.symm.trans empty
      | outOfSight present missed =>
          obtain rfl := Option.some.inj (found.symm.trans present)
          cases (spans_eq_none_iff.mpr missed).symm.trans seen

/-- With tools that can be relied upon, a draw onto a surface changes at most the pixels of this
surface that lie in the target, and a draw that is refused or has nothing to show changes nothing at
all. -/
theorem confinement (tools : Tools) (reliable : tools.Reliable) (engine : Engine)
    (image surface : UInt64) (source target : Rect) :
    let reply := engine.drawWith tools image surface source target
    engine.Confines surface target reply.engine ∧
      (ShowsNothing engine image surface source target reply.result → reply.engine = engine) := by
  intro reply
  cases drawn : engine.images.find? image with
  | none =>
      have refused : reply = ⟨engine, .error (.unknownHandle image), [], []⟩ :=
        drawWith_of_absent drawn tools surface source target
      rw [refused]
      exact ⟨.refl engine surface target, fun _ => rfl⟩
  | some picture =>
      have known : reply = engine.drawPicture tools picture surface source target :=
        drawWith_of_present drawn tools surface source target
      rw [known]
      exact ⟨confines_drawPicture reliable engine picture surface source target,
        engine_drawPicture_of_showsNothing drawn⟩

/-- A draw of one pixel into the middle of a surface, and the same draw beside the surface. -/
theorem confinement_of_pixel :
    let ink : Pixel := ⟨200, 10, 10, 255⟩
    let picture := Picture.ofFn 1 1 (fun _ _ => ink)
    let onto := Picture.blank 3 3
    let engine : Engine := ⟨Table.empty.insert 1 picture, Table.empty.insert 2 onto, 3⟩
    let middle := (engine.draw 1 2 ⟨0, 0, 1, 1⟩ ⟨1, 1, 2, 2⟩).engine
    let beside := (engine.draw 1 2 ⟨0, 0, 1, 1⟩ ⟨3, 0, 9, 9⟩).engine
    Tools.standard.Reliable ∧
      (middle.surfaces.find? 2).map (fun surface => surface.pixel 1 1) = some ink ∧
        engine.Confines 2 ⟨1, 1, 2, 2⟩ middle ∧ beside = engine := by
  intro ink picture onto engine middle beside
  have found : engine.surfaces.find? 2 = some onto := rfl
  have missed : ∀ x y, x < onto.width → y < onto.height → ¬ Rect.Contains ⟨3, 0, 9, 9⟩ x y := by
    rintro x y across - ⟨left, -⟩
    have width : onto.width = 3 := rfl
    have edge : (3 : Int32).toInt ≤ x := left
    have three : (3 : Int32).toInt = 3 := rfl
    omega
  refine ⟨Tools.reliable_standard, by decide +kernel, ?_, ?_⟩
  · exact (confinement .standard Tools.reliable_standard engine 1 2 ⟨0, 0, 1, 1⟩ ⟨1, 1, 2, 2⟩).1
  · exact (confinement .standard Tools.reliable_standard engine 1 2 ⟨0, 0, 1, 1⟩
      ⟨3, 0, 9, 9⟩).2 (.outOfSight found missed)

end HostBridge.Raster.Engine
