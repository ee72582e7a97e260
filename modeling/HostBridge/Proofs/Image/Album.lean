import HostBridge.Proofs.Image.Recording

/-!
# Albums

An engine together with every bitmap that was ever made of it, and what an operation on one of these
bitmaps can do: something is made, a bitmap is given back, or the engine alone is asked.

Main statements: an album is the same over a part of its engine that answers as the engine does
(`Album.map_steps`); over a watched raster engine a bitmap stays as it was made, and counts as given
back from the first operation that releases or drops it (`Album.follows_run`).
-/

namespace HostBridge

open Raster (Kind Resource Watched)

variable {load : List UInt8 → Except String Raster.Picture}

/-- A bitmap as it was made and as it is, and whether it was released or dropped since. -/
structure Slot where
  made : Bitmap
  bitmap : Bitmap
  given : Bool

/-- An engine and its bitmaps, in the order in which they were made. -/
structure Album (ε : Type) where
  engine : ε
  slots : List Slot

/-- An operation on an album.  Nothing can be done with a bitmap that was dropped, but that is not
asked for. -/
inductive AlbumStep where
  | decode (bytes : List UInt8)
  | decodeRange (data : List UInt8) (offset length : Nat)
  | decodeReader (chunks : List (List UInt8)) (failure : Option String)
  | create (width height : UInt32)
  | draw (target source : Nat) (part place : Rect)
  | compress (index : Nat) (format : ImageFormat) (quality : Int)
  | release (index : Nat)
  | drop (index : Nat)

/-- Whether an operation gives a bitmap back. -/
def AlbumStep.givesBack (index : Nat) : AlbumStep → Bool
  | .release other => other = index
  | .drop other => other = index
  | _ => false

namespace Album

variable {ε ε' : Type}

def new (engine : ε) : Album ε := ⟨engine, []⟩

/-- The same bitmaps, of a part of the engine. -/
def map (f : ε → ε') (album : Album ε) : Album ε' := ⟨f album.engine, album.slots⟩

/-- Add what was made, if anything was. -/
def hold (album : Album ε) (reply : EngineReply ε (Except BridgeError Bitmap)) : Album ε :=
  match reply.result with
  | .error _ => { album with engine := reply.engine }
  | .ok bitmap => ⟨reply.engine, album.slots ++ [⟨bitmap, bitmap, false⟩]⟩

theorem map_hold (f : ε → ε') (album : Album ε)
    (reply : EngineReply ε (Except BridgeError Bitmap)) :
    (album.hold reply).map f = (album.map f).hold (reply.mapEngine f) := by
  unfold hold
  dsimp only [EngineReply.mapEngine]
  split <;> rfl

variable [ImageEngine ε] [ImageEngine ε']

def giveBack (album : Album ε) (index : Nat) : Album ε :=
  match album.slots[index]? with
  | none => album
  | some slot =>
    let reply := Bitmap.release album.engine slot.bitmap
    ⟨reply.engine, album.slots.set index { slot with bitmap := reply.result, given := true }⟩

/-- Carry out an operation; one on a bitmap that was never made does nothing. -/
def step (album : Album ε) : AlbumStep → Album ε
  | .decode bytes => album.hold (Bitmap.decode album.engine bytes)
  | .decodeRange data offset length =>
    album.hold (Bitmap.decodeRange album.engine data offset length)
  | .decodeReader chunks failure => album.hold (Bitmap.decodeReader album.engine chunks failure)
  | .create width height => album.hold (Bitmap.create album.engine width height)
  | .draw target source part place =>
    match album.slots[target]?, album.slots[source]? with
    | some target, some source =>
      let reply := Bitmap.draw album.engine target.bitmap source.bitmap part place
      { album with engine := reply.engine }
    | _, _ => album
  | .compress index format quality =>
    match album.slots[index]? with
    | some slot =>
      { album with engine := (Bitmap.compress album.engine slot.bitmap format quality).engine }
    | none => album
  | .release index => album.giveBack index
  | .drop index => album.giveBack index

/-- The album after operations on bitmaps of a new engine. -/
def run (load : List UInt8 → Except String Raster.Picture) (steps : List AlbumStep) :
    Album (Watched load) :=
  steps.foldl step (new .new)

section Map

variable {f : ε → ε'} (shows : ImageEngine.Shows f)

include shows

theorem map_giveBack (album : Album ε) (index : Nat) :
    (album.giveBack index).map f = (album.map f).giveBack index := by
  unfold giveBack
  dsimp only [map]
  split
  · rfl
  · rw [← Bitmap.mapEngine_release shows]
    rfl

/-- Each step commutes with a map that keeps what the engine does. -/
theorem map_step (album : Album ε) (step : AlbumStep) :
    (album.step step).map f = (album.map f).step step := by
  cases step with
  | decode bytes =>
      rw [Album.step, map_hold, Bitmap.mapEngine_decode shows]
      rfl
  | decodeRange data offset length =>
      rw [Album.step, map_hold, Bitmap.mapEngine_decodeRange shows]
      rfl
  | decodeReader chunks failure =>
      rw [Album.step, map_hold, Bitmap.mapEngine_decodeReader shows]
      rfl
  | create width height =>
      rw [Album.step, map_hold, Bitmap.mapEngine_create shows]
      rfl
  | draw target source part place =>
      unfold Album.step
      dsimp only [map]
      split
      · rw [← Bitmap.mapEngine_draw shows]
        rfl
      · rfl
  | compress index format quality =>
      unfold Album.step
      dsimp only [map]
      split
      · rw [← Bitmap.mapEngine_compress shows]
        rfl
      · rfl
  | release index => exact map_giveBack shows album index
  | drop index => exact map_giveBack shows album index

/-- Each run commutes with a map that keeps what the engine does. -/
theorem map_steps (album : Album ε) (steps : List AlbumStep) :
    (steps.foldl step album).map f = steps.foldl step (album.map f) :=
  (List.foldl_hom (map f) fun album step => (map_step shows album step).symm).symm

end Map

variable {album : Album (Watched load)}

theorem engine_hold (album : Album (Watched load))
    (reply : EngineReply (Watched load) (Except BridgeError Bitmap)) :
    (album.hold reply).engine = reply.engine := by
  unfold hold
  split <;> rfl

/-- What an operation can do to an album. -/
inductive Moves (album : Album (Watched load)) (step : AlbumStep) :
    Album (Watched load) → Prop where
  | makes {kind : Kind} {reply : EngineReply (Watched load) (Except BridgeError Bitmap)}
      (keeping : ∀ index, step.givesBack index = false)
      (further : album.engine.deeds <+: reply.engine.deeds)
      (tries : album.engine.Ready → album.engine.Tries kind
        (fun bitmap => bitmap.Holds ⟨kind, album.engine.engine.next⟩) reply) :
      Moves album step (album.hold reply)
  | asks {engine : Watched load} (keeping : ∀ index, step.givesBack index = false)
      (further : album.engine.deeds <+: engine.deeds)
      (keeps : (∀ slot ∈ album.slots, slot.bitmap.IsKnown album.engine) →
        album.engine.Keeps engine) :
      Moves album step { album with engine := engine }
  | gives {given : Nat} (giving : ∀ index, step.givesBack index = decide (given = index)) :
      Moves album step (album.giveBack given)

/-- Each step is a move. -/
theorem moves_step (album : Album (Watched load)) (step : AlbumStep) :
    album.Moves step (album.step step) := by
  cases step with
  | decode bytes =>
      exact .makes (fun _ => rfl) (Bitmap.extends_decode _ _) fun ready =>
        Bitmap.tries_decode ready bytes
  | decodeRange data offset length =>
      exact .makes (fun _ => rfl) (Bitmap.extends_decodeRange _ _ _ _) fun ready =>
        Bitmap.tries_decodeRange ready data offset length
  | decodeReader chunks failure =>
      exact .makes (fun _ => rfl) (Bitmap.extends_decodeReader _ _ _) fun ready =>
        Bitmap.tries_decodeReader ready chunks failure
  | create width height =>
      exact .makes (fun _ => rfl) (Bitmap.extends_create _ _ _) fun ready =>
        Bitmap.tries_create ready width height
  | draw target source part place =>
      rw [Album.step]
      split
      next onto drawn =>
        refine .asks (fun _ => rfl) (Bitmap.extends_draw _ _ _ _ _) fun known => ?_
        exact Bitmap.keeps_draw (known _ (List.mem_of_getElem? onto))
          (known _ (List.mem_of_getElem? drawn)) part place
      · exact .asks (fun _ => rfl) List.prefix_rfl fun _ => .refl _
  | compress index format quality =>
      rw [Album.step]
      split
      next found =>
        refine .asks (fun _ => rfl) (Bitmap.extends_compress _ _ _ _) fun known => ?_
        exact Bitmap.keeps_compress (known _ (List.mem_of_getElem? found)) format quality
      · exact .asks (fun _ => rfl) List.prefix_rfl fun _ => .refl _
  | release index => exact .gives fun _ => rfl
  | drop index => exact .gives fun _ => rfl

theorem deeds_giveBack (album : Album (Watched load)) (index : Nat) :
    album.engine.deeds <+: (album.giveBack index).engine.deeds := by
  unfold giveBack
  split
  · exact List.prefix_rfl
  · exact Bitmap.extends_release _ _

/-- Each move adds to the deeds of the engine. -/
theorem Moves.deeds {step : AlbumStep} {later : Album (Watched load)}
    (moves : album.Moves step later) :
    album.engine.deeds <+: later.engine.deeds := by
  cases moves with
  | makes _ further _ => exact engine_hold album _ ▸ further
  | asks _ further _ => exact further
  | gives _ => exact deeds_giveBack album _

/-- No step unmakes a resource. -/
theorem made_step_le (album : Album (Watched load)) (step : AlbumStep) :
    album.engine.made.length ≤ (album.step step).engine.made.length :=
  ((album.moves_step step).deeds.filterMap _).length_le

section Fate

variable {index : Nat} {slot : Slot}

/-- A slot stays in its place when another bitmap is held. -/
theorem find_hold {reply : EngineReply (Watched load) (Except BridgeError Bitmap)}
    (found : album.slots[index]? = some slot) : (album.hold reply).slots[index]? = some slot := by
  unfold hold
  split
  · exact found
  · exact List.getElem?_append_left (List.getElem?_eq_some_iff.mp found).1 ▸ found

/-- A slot stays in its place, and is given when it is the one given back. -/
theorem find_giveBack {given : Nat} (found : album.slots[index]? = some slot) :
    ∃ later, (album.giveBack given).slots[index]? = some later ∧ later.made = slot.made ∧
      later.given = (slot.given || given = index) := by
  unfold giveBack
  by_cases same : given = index
  · subst same
    rw [found]
    refine ⟨_, List.getElem?_set_self (List.getElem?_eq_some_iff.mp found).1, rfl, ?_⟩
    rw [decide_eq_true rfl, Bool.or_true]
  · split
    · exact ⟨slot, found, rfl, by simp [same]⟩
    · refine ⟨slot, (List.getElem?_set_ne same).trans found, rfl, by simp [same]⟩

/-- A slot stays in its place through each move. -/
theorem Moves.find {step : AlbumStep} {after : Album (Watched load)}
    (moves : album.Moves step after) (found : album.slots[index]? = some slot) :
    ∃ later, after.slots[index]? = some later ∧ later.made = slot.made ∧
      later.given = (slot.given || step.givesBack index) := by
  cases moves with
  | makes keeping _ _ => exact ⟨slot, find_hold found, rfl, by rw [keeping, Bool.or_false]⟩
  | asks keeping _ _ => exact ⟨slot, found, rfl, by rw [keeping, Bool.or_false]⟩
  | gives giving =>
      rw [giving]
      exact find_giveBack found

/-- A slot stays in its place through a run, and is given once some step gives it back. -/
theorem find_steps (steps : List AlbumStep) (found : album.slots[index]? = some slot) :
    ∃ later, (steps.foldl step album).slots[index]? = some later ∧ later.made = slot.made ∧
      later.given = (slot.given || steps.any (AlbumStep.givesBack index)) := by
  induction steps generalizing album slot with
  | nil => exact ⟨slot, found, rfl, (Bool.or_false _).symm⟩
  | cons step steps ih =>
      obtain ⟨between, present, made, given⟩ := (album.moves_step step).find found
      obtain ⟨later, last, same, ends⟩ := ih present
      refine ⟨later, last, same.trans made, ?_⟩
      rw [ends, given, List.any_cons, Bool.or_assoc]

/-- A slot that is new has not been given, and holds the bitmap that was made. -/
theorem Moves.fresh {step : AlbumStep} {after : Album (Watched load)}
    (moves : album.Moves step after) (absent : album.slots[index]? = none)
    (found : after.slots[index]? = some slot) :
    slot.given = false ∧ slot.bitmap = slot.made := by
  have missing := List.getElem?_eq_none_iff.mp absent
  cases moves with
  | makes _ _ _ =>
      unfold hold at found
      split at found
      · cases absent.symm.trans found
      · rw [List.getElem?_append_right missing] at found
        obtain rfl := List.mem_singleton.mp (List.mem_of_getElem? found)
        exact ⟨rfl, rfl⟩
  | asks _ _ _ => cases absent.symm.trans found
  | gives _ =>
      unfold giveBack at found
      split at found
      · cases absent.symm.trans found
      · rw [List.getElem?_eq_none (by rw [List.length_set]; exact missing)] at found
        cases found

end Fate

theorem run_concat (steps : List AlbumStep) (step : AlbumStep) :
    run load (steps ++ [step]) = (run load steps).step step := List.foldl_concat ..

/-- When bitmaps are made and given back in the course of operations. -/
structure Follows (load : List UInt8 → Except String Raster.Picture) (steps : List AlbumStep) :
    Prop where
  begins : ∀ before step after (index : Nat) (slot : Slot), steps = before ++ step :: after →
    (run load before).slots[index]? = none →
      (run load (before ++ [step])).slots[index]? = some slot →
        slot.given = false ∧ slot.bitmap = slot.made
  continues : ∀ before after (index : Nat) (slot : Slot), steps = before ++ after →
    (run load before).slots[index]? = some slot →
      ∃ later, (run load steps).slots[index]? = some later ∧ later.made = slot.made ∧
        later.given = (slot.given || after.any (AlbumStep.givesBack index))

/-- Each slot of a run was made by one of its steps. -/
theorem follows_run (load : List UInt8 → Except String Raster.Picture) (steps : List AlbumStep) :
    Follows load steps where
  begins := by
    rintro before step after index slot rfl absent found
    rw [run_concat] at found
    exact (moves_step _ step).fresh absent found
  continues := by
    rintro before after index slot rfl found
    obtain ⟨later, present, made, given⟩ := find_steps after found
    rw [run, List.foldl_append]
    exact ⟨later, present, made, given⟩

end Album

end HostBridge
